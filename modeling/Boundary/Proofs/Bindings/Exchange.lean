import Boundary.Proofs.Bindings.Run

/-!
# What writing does to places

A file has three places: its own, that where its source is written first, and that where an earlier
file is kept. They are in one directory. As long as no symbolic link is in the way they stay the
same, and putting a source in its place is an exchange of entries.

* `stagingName`, `backupName`: the other names of a file.
* `Unlinked`: no symbolic link is in the way.
* `Places`: the places of a file.
* `Staged.sameWays`, `Staged.exists_places`, `Staged.find?_of_ne`: what writing under the first
  names does.
* `Exchanged`, `Placed.exchanged`: what putting a source in its place does.
-/

namespace Boundary

/-- The paths of the files of the configuration `c` in the directory `out`. -/
def Config.files (c : Config) (out : FilePath) : List FilePath :=
  [out.join c.nativeFile, out.join c.managedFile]

namespace Bindings

open FilePath FileTree Fallible

variable {t₀ t t' : FileTree} {p : FilePath} {w s b x : Way}

/-! ## The names beside a file -/

/-- The name under which the source of the file `s` is written first. -/
def stagingName (s : String) : String := s ++ ".crossbind-tmp"

/-- The name under which an earlier file `s` is kept. -/
def backupName (s : String) : String := s ++ ".crossbind-bak"

section Names

variable {s s' : String}

private theorem isName_stagingName (h : IsName s) : IsName (stagingName s) :=
  h.append (by decide) (by decide)

private theorem isName_backupName (h : IsName s) : IsName (backupName s) :=
  h.append (by decide) (by decide)

theorem length_stagingName (s : String) : (stagingName s).length = s.length + 14 :=
  String.length_append ..

theorem length_backupName (s : String) : (backupName s).length = s.length + 14 :=
  String.length_append ..

theorem ne_stagingName (s : String) : s ≠ stagingName s := by
  intro h
  have hlength := congrArg String.length h
  rw [length_stagingName] at hlength
  omega

theorem ne_backupName (s : String) : s ≠ backupName s := by
  intro h
  have hlength := congrArg String.length h
  rw [length_backupName] at hlength
  omega

theorem stagingName_injective (h : stagingName s = stagingName s') : s = s' :=
  (String.append_left_inj _).mp h

theorem stagingName_ne_backupName (s s' : String) : stagingName s ≠ backupName s' := by
  intro h
  have hchars := congrArg String.toList h
  rw [stagingName, backupName, String.toList_append, String.toList_append] at hchars
  have hending := (List.append_inj' hchars (by decide)).2
  exact absurd hending (by decide)

private theorem staging_join {out : FilePath} (h : IsName s) :
    staging (out.join s) = (ofComponents out.components).join (stagingName s) :=
  sibling_join out h _

private theorem backup_join {out : FilePath} (h : IsName s) :
    backup (out.join s) = (ofComponents out.components).join (backupName s) :=
  sibling_join out h _

theorem names_of_fault?_eq_none {c : Config} (h : c.fault? = none) :
    isFileName c.nativeFile = true ∧ isFileName c.managedFile = true ∧
      c.nativeFile ≠ c.managedFile := by
  unfold Config.fault? at h
  repeat
    split at h
    · cases h
  simp_all

private theorem isName_of_isFileName (h : isFileName s = true) (hhere : s ≠ ".") (hup : s ≠ "..") :
    IsName s := by
  simp only [isFileName, Bool.and_eq_true, Bool.not_eq_true', List.all_eq_true] at h
  refine ⟨?_, ?_, hhere, hup⟩
  · rintro rfl
    exact absurd h.1 (by decide)
  · intro hslash
    exact absurd (h.2 '/' hslash) (by decide)

/-- If the `target` of `out.join s` is a name, then `s` is one. -/
theorem isName_of_target {follow slash : Bool} {out : FilePath} {d : Way} {name : String}
    (hs : isFileName s = true) (h : t.target follow (out.join s) = .ok (.entry d name slash)) :
    IsName s := by
  refine isName_of_isFileName hs ?_ ?_ <;> rintro rfl
  · exact target_join_ne_entry out (.inl rfl) d name slash h
  · exact target_join_ne_entry out (.inr rfl) d name slash h

end Names

/-! ## Symbolic links -/

/-- The tree when the directory `out` has been made. -/
def made (t : FileTree) (out : FilePath) : FileTree :=
  (t.run (createDirectories out : ExceptT OsError (StateM FileTree) Unit)).2

/-- The tree without what is at `files`, and where earlier ones are kept. -/
def cleared (t : FileTree) (files : List FilePath) : FileTree :=
  t.withoutFiles (files.flatMap fun p => [p, backup p])

/-- No symbolic link is in the way: there is none where a source is written first (`staging`), and
none of those at `files`, or where earlier ones are kept, is on the way to a place of a file. -/
structure Unlinked (t : FileTree) (files : List FilePath) : Prop where
  staged : ∀ p ∈ files, ¬ t.HasLink (staging p)
  place? : ∀ p ∈ files, ∀ q ∈ [p, staging p, backup p],
    (cleared t files).place? q = t.place? q

/-- The places of the file `p`: its own (`w`), that where its source is written first (`s`), and
that where an earlier one is kept (`b`). They are different and without links. -/
structure Places (t : FileTree) (p : FilePath) (w s b : Way) : Prop where
  file : t.place? p = some w
  staged : t.place? (staging p) = some s
  aside : t.place? (backup p) = some b
  file_ne_staged : w ≠ s
  file_ne_aside : w ≠ b
  staged_ne_aside : s ≠ b
  ne_link : ∀ x, x = w ∨ x = s ∨ x = b → ∀ q, t.find? x ≠ some (.link q)

namespace Unlinked

variable {files : List FilePath} {out : FilePath} {d : Way} {n : String}

theorem under (t : FileTree) (files : List FilePath) : (cleared t files).Under t :=
  under_withoutFiles t _

/-- No symbolic link is where one of the sources of `targets` is written first. -/
theorem not_hasLink {targets : List (FilePath × String)}
    (h : Unlinked t (targets.map Prod.fst)) : ∀ file ∈ targets, ¬ t.HasLink (staging file.1) :=
  fun _ hfile => h.staged _ (List.mem_map_of_mem hfile)

/-- The directory of a file is found in the `cleared` tree too. -/
theorem exists_leads (h : Unlinked t files) (hp : out.join n ∈ files) (hn : IsName n)
    (hplace : t.place? (out.join n) = some w) : ∃ d, (cleared t files).Leads out d := by
  rw [← h.place? _ hp _ (by simp)] at hplace
  obtain ⟨d, hd, -⟩ := exists_leads_of_place? hn hplace
  exact ⟨d, hd⟩

theorem places (h : Unlinked t files) (hp : out.join n ∈ files) (hn : IsName n)
    (hd : (cleared t files).Leads out d) :
    Places (cleared t files) (out.join n) (d ++ [n]) (d ++ [stagingName n])
      (d ++ [backupName n]) := by
  have hstaged : (cleared t files).place? (staging (out.join n)) =
      some (d ++ [stagingName n]) := by
    rw [staging_join hn]
    exact (leads_ofComponents hd).place? (isName_stagingName hn)
  have haside : (cleared t files).place? (backup (out.join n)) = some (d ++ [backupName n]) := by
    rw [backup_join hn]
    exact (leads_ofComponents hd).place? (isName_backupName hn)
  have hne {s s' : String} (hs : s ≠ s') : d ++ [s] ≠ d ++ [s'] := by simpa using hs
  refine ⟨hd.place? hn, hstaged, haside, hne (ne_stagingName n), hne (ne_backupName n),
    hne (stagingName_ne_backupName n n), ?_⟩
  rintro x (rfl | rfl | rfl) q hq
  · cases eq_directory_of_withoutFiles
      (List.mem_flatMap.mpr ⟨_, hp, by simp⟩) (hd.place? hn) hq
  · refine h.staged _ hp ⟨q, ?_⟩
    rw [there?_of_place? ((under t files).place? hstaged)]
    exact (under t files).find? _ _ hq rfl
  · cases eq_directory_of_withoutFiles (List.mem_flatMap.mpr ⟨_, hp, by simp⟩) haside hq

end Unlinked

/-! ## Sources that have been written -/

section Staged

variable {files : List (FilePath × String)}

theorem Staged.sameWays (h : Staged t files t')
    (hlinks : ∀ file ∈ files, ¬ t.HasLink (staging file.1)) : t.SameWays t' := by
  induction h with
  | nil t => exact .refl t
  | cons hwrite _ ih =>
    rw [List.forall_mem_cons] at hlinks
    obtain ⟨_, -, hold, hcwd, hupdate⟩ := exists_place_of_write hwrite hlinks.1
    have hsame := sameWays_of_update hcwd hupdate hold fun e he => by cases he; rfl
    exact hsame.trans (ih fun file hfile hlink => hlinks.2 file hfile (hlink.of_under hsame.2))

/-- Two sources that are `Staged` are where they have been written, and nothing else is different.
-/
theorem Staged.exists_places {p q : FilePath} {a b : String}
    (h : Staged t [(p, a), (q, b)] t') (hp : ¬ t.HasLink (staging p))
    (hq : ¬ t.HasLink (staging q)) :
    ∃ x y, t.place? (staging p) = some x ∧ t.place? (staging q) = some y ∧
      t'.find? = Function.update
        (Function.update t.find? x (some (.file (Text.Utf8.encode a)))) y
        (some (.file (Text.Utf8.encode b))) := by
  obtain _ | ⟨hfirst, hrest⟩ := h
  obtain _ | ⟨hsecond, hnil⟩ := hrest
  cases hnil
  obtain ⟨x, hx, hold, hcwd, hupdate⟩ := exists_place_of_write hfirst hp
  have hsame := sameWays_of_update hcwd hupdate hold fun e he => by cases he; rfl
  obtain ⟨y, hy, -, -, hupdate'⟩ :=
    exists_place_of_write hsecond fun hlink => hq (hlink.of_under hsame.2)
  rw [hsame.place?] at hy
  exact ⟨x, y, hx, hy, hupdate' ▸ hupdate ▸ rfl⟩

/-- Nothing is different but at the staging places. -/
theorem Staged.find?_of_ne (h : Staged t files t')
    (hlinks : ∀ file ∈ files, ¬ t.HasLink (staging file.1))
    (hx : ∀ file ∈ files, t.place? (staging file.1) ≠ some x) : t'.find? x = t.find? x := by
  induction h with
  | nil t => rfl
  | @cons t t₁ t' p source rest hwrite _ ih =>
    rw [List.forall_mem_cons] at hlinks hx
    obtain ⟨way, hplace, hold, hcwd, hupdate⟩ := exists_place_of_write hwrite hlinks.1
    have hsame := sameWays_of_update hcwd hupdate hold fun e he => by cases he; rfl
    have hne : x ≠ way := by
      rintro rfl
      exact hx.1 hplace
    rw [ih (fun file hfile hlink => hlinks.2 file hfile (hlink.of_under hsame.2))
      fun file hfile => by rw [hsame.place?]; exact hx.2 file hfile, hupdate,
      Function.update_of_ne hne]

end Staged

/-! ## Sources in their places -/

/-- What there is at the places `w`, `s` and `b` before (`f`) and after (`f'`) the source of a file
has been put in its place. An earlier file has been `replaced` and kept. -/
structure Exchanged {α : Type} (f : α → Option FileEntry) (w s b : α) (replaced : Bool)
    (f' : α → Option FileEntry) : Prop where
  placed : f' w = f s
  staged : f' s = none
  aside : f' b = if replaced then f w else f b
  other : ∀ x, x ≠ w → x ≠ s → x ≠ b → f' x = f x
  source : ∃ e, f s = some e ∧ e ≠ .directory
  earlier : replaced = true → ∃ e, f w = some e ∧ e ≠ .directory
  fresh : replaced = false → ∀ bytes, f w ≠ some (.file bytes)

theorem Placed.replaced_eq {replaced : Bool} (h : Placed p t replaced t') :
    replaced = true ↔ t.kind? p = some .file := by
  cases h with
  | new hfile _ => simp [hfile]
  | replacing hfile _ _ => simp [hfile]

/-- **Putting a source in its place**, as `Placed` says, exchanges what is at the `Places` of the
file, and leaves the way to other places as it is. -/
theorem Placed.exchanged {replaced : Bool} (h : Placed p t replaced t') (ht : t₀.Under t)
    (hp : Places t₀ p w s b) :
    t₀.Under t' ∧ Exchanged t.find? w s b replaced t'.find? := by
  cases h with
  | new hfile hmove =>
    obtain ⟨ht', -, e, he, hne, hupdate⟩ :=
      ht.move hmove hp.staged hp.file (hp.ne_link s (.inr (.inl rfl))) (hp.ne_link w (.inl rfl))
    refine ⟨ht', ?_, ?_, ?_, ?_, ⟨e, he, hne⟩, nofun, ?_⟩
    · simp [hupdate, he]
    · simp [hupdate, hp.file_ne_staged.symm]
    · simp [hupdate, hp.file_ne_aside.symm, hp.staged_ne_aside.symm]
    · intro x hxw hxs _
      simp [hupdate, hxw, hxs]
    · intro _ bytes hbytes
      exact hfile (kind?_of_place? (ht.place? hp.file) hbytes)
  | replacing hfile haside hmove =>
    obtain ⟨ht₁, -, old, hold, hne, hupdate₁⟩ :=
      ht.move haside hp.file hp.aside (hp.ne_link w (.inl rfl)) (hp.ne_link b (.inr (.inr rfl)))
    obtain ⟨ht', -, e, he, hne', hupdate⟩ :=
      ht₁.move hmove hp.staged hp.file (hp.ne_link s (.inr (.inl rfl))) (hp.ne_link w (.inl rfl))
    rw [hupdate₁, Function.update_of_ne hp.staged_ne_aside,
      Function.update_of_ne hp.file_ne_staged.symm] at he
    refine ⟨ht', ?_, ?_, ?_, ?_, ⟨e, he, hne'⟩, fun _ => ⟨old, hold, hne⟩, nofun⟩
    · simp [hupdate, he]
    · simp [hupdate, hp.file_ne_staged.symm]
    · simp [hupdate, hupdate₁, hp.file_ne_aside.symm, hp.staged_ne_aside.symm, hold]
    · intro x hxw hxs hxb
      simp [hupdate, hupdate₁, hxw, hxs, hxb]

end Bindings

end Boundary
