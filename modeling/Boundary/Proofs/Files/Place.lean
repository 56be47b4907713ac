import Mathlib.Logic.Function.Basic
import Boundary.Proofs.Fallible
import Boundary.Proofs.Files.Walk

/-!
# Places in a tree

The operations on files are updates of a map from places to entries. This holds of every path, also
of one whose last name is not known.

* `FileTree.KeepsFiles`, `FileTree.KeepsDirectories`, `FileTree.Extends`: how trees compare.
* `exists_place_of_write`, `exists_places_of_move`, `exists_move_of_places`: writing and moving as
  updates.
* `Under.of_agree`, `sameWays_of_update`: which changes leave the way to other places as it is.
* `FileTree.withoutFile`: the tree when a file or a link has been removed, if there was one.
* `keepsFiles_withoutFiles`: places are cleared.
* `keeps_createDirectories`: making directories only adds directories.
* `run_createDirectories_of_directory`: there is nothing to do for a directory.
-/

namespace Boundary.FileTree

open FilePath Fallible

variable {t t' t'' : FileTree} {p q : FilePath} {w x : Way} {bytes : List UInt8}

/-! ## Operations as actions -/

section Change

variable {operation : FileTree → Except OsError FileTree}

/-- Only what `operation` does to the current tree counts for `change`. -/
theorem run_change (t : FileTree) :
    (change operation).run t = (change fun _ => operation t).run t := rfl

theorem run_change_eq_ok_iff :
    (change operation).run t = (.ok (), t') ↔ operation t = .ok t' := by
  rw [run_change]
  cases operation t with
  | error e =>
    refine ⟨fun h => ?_, fun h => ?_⟩
    · cases h
    · cases h
  | ok t₁ =>
    refine ⟨fun h => ?_, fun h => ?_⟩
    · cases h
      rfl
    · cases h
      rfl

/-- `change` fails as `operation` does, and leaves the tree as it is then. -/
theorem run_change_eq_error_iff {e : OsError} :
    (change operation).run t = (.error e, t') ↔ operation t = .error e ∧ t = t' := by
  rw [run_change]
  cases operation t with
  | error e₁ =>
    constructor
    · intro h
      cases h
      exact ⟨rfl, rfl⟩
    · rintro ⟨h, rfl⟩
      cases h
      rfl
  | ok t₁ =>
    constructor
    · intro h
      cases h
    · rintro ⟨h, -⟩
      cases h

theorem run_attempt_change :
    (attempt (change operation)).run t = ((), match operation t with
      | .ok t' => t'
      | .error _ => t) := by
  have hrun : (attempt (change operation)).run t =
      (attempt (change fun _ => operation t)).run t := rfl
  rw [hrun]
  cases operation t <;> rfl

end Change

/-! ## How trees compare -/

/-- The trees `t` and `t'` have the same files, and these the same bytes. -/
def KeepsFiles (t t' : FileTree) : Prop :=
  ∀ way bytes, t'.find? way = some (.file bytes) ↔ t.find? way = some (.file bytes)

theorem KeepsFiles.refl (t : FileTree) : t.KeepsFiles t := fun _ _ => Iff.rfl

theorem KeepsFiles.trans (h : t.KeepsFiles t') (h' : t'.KeepsFiles t'') : t.KeepsFiles t'' :=
  fun way bytes => (h' way bytes).trans (h way bytes)

/-- What is a directory in `t` is one in `t'`. -/
def KeepsDirectories (t t' : FileTree) : Prop :=
  ∀ way, t.find? way = some .directory → t'.find? way = some .directory

theorem Under.keepsDirectories (h : t.Under t') : t.KeepsDirectories t' :=
  fun way hway => h.find? way .directory hway rfl

/-- Nothing but directories is in `t'` and not in `t`, and no file or directory of `t` is missing.
-/
def Extends (t t' : FileTree) : Prop := t.KeepsFiles t' ∧ t.KeepsDirectories t'

theorem Extends.refl (t : FileTree) : t.Extends t := ⟨.refl t, fun _ => id⟩

theorem Extends.trans (h : t.Extends t') (h' : t'.Extends t'') : t.Extends t'' :=
  ⟨h.1.trans h'.1, fun way hway => h'.2 way (h.2 way hway)⟩

/-! ## Updates -/

/-- What is not a directory is not on the way to `cwd`, the working directory. -/
theorem isPrefixOf_of_find?_ne (h : t.find? w ≠ some .directory) : w.isPrefixOf t.cwd = false := by
  refine Bool.eq_false_iff.mpr fun hcwd => h ?_
  rw [find?, if_pos hcwd]

theorem find?_put_eq_update (h : t.find? w ≠ some .directory) (entry : FileEntry) :
    (t.put w entry).find? = Function.update t.find? w (some entry) := by
  funext x
  by_cases hx : x = w
  · rw [hx, Function.update_self, find?_put, isPrefixOf_of_find?_ne h]
    simp
  · rw [Function.update_of_ne hx, find?_put, if_neg hx]
    split
    · rw [find?, if_pos ‹_›]
    · rfl

theorem find?_erase_eq_update (h : t.find? w ≠ some .directory) :
    (t.erase w).find? = Function.update t.find? w none := by
  funext x
  by_cases hx : x = w
  · rw [hx, Function.update_self, find?_erase, isPrefixOf_of_find?_ne h]
    simp
  · rw [Function.update_of_ne hx, find?_erase, if_neg hx]
    split
    · rw [find?, if_pos ‹_›]
    · rfl

/-- A change at places where `t` has no directory and no link leaves those of `t` as they are. -/
theorem Under.of_agree (h : t.Under t') (hcwd : t''.cwd = t'.cwd)
    (hagree : ∀ x, t''.find? x ≠ t'.find? x →
      t'.find? x ≠ some .directory ∧ ∀ q, t.find? x ≠ some (.link q)) : t.Under t'' := by
  refine ⟨hcwd.trans h.cwd, fun x e he hfile => ?_⟩
  have hold := h.find? x e he hfile
  by_contra hne
  obtain ⟨hdirectory, hlink⟩ := hagree x fun hsame => hne (hsame.trans hold)
  cases e with
  | directory => exact hdirectory hold
  | file bytes => cases hfile
  | link q => exact hlink q he

/-- An update of a place where there was at most a file, and is at most one, leaves all ways the
same (`SameWays`). -/
theorem sameWays_of_update {entry : Option FileEntry} (hcwd : t'.cwd = t.cwd)
    (hupdate : t'.find? = Function.update t.find? w entry)
    (hold : ∀ e, t.find? w = some e → e.isFile = true)
    (hnew : ∀ e, entry = some e → e.isFile = true) : t.SameWays t' := by
  refine ⟨(Under.refl t).of_agree hcwd fun x hx => ?_, ⟨hcwd.symm, fun x e he hfile => ?_⟩⟩
  · obtain rfl : x = w := by
      by_contra hne
      rw [hupdate, Function.update_of_ne hne] at hx
      exact hx rfl
    exact ⟨fun h => (nomatch hold _ h), fun q h => (nomatch hold _ h)⟩
  · rw [hupdate] at he
    by_cases hx : x = w
    · rw [hx, Function.update_self] at he
      exact absurd (hnew e he) (by simp [hfile])
    · rwa [Function.update_of_ne hx] at he

/-! ## Operations as updates -/

/-- After `write` where there is no link the place of the path has a file, and nothing else is
different. -/
theorem exists_place_of_write (h : t.write p bytes = .ok t') (hlink : ¬ t.HasLink p) :
    ∃ way, t.place? p = some way ∧ (∀ e, t.find? way = some e → e.isFile = true) ∧
      t'.cwd = t.cwd ∧ t'.find? = Function.update t.find? way (some (.file bytes)) := by
  unfold write at h
  cases htarget : t.target true p with
  | error e =>
    rw [htarget] at h
    cases h
  | ok goal =>
    rw [htarget] at h
    cases goal with
    | directory way => cases h
    | entry d s b =>
      obtain ⟨htext, cs, name, e, k, hsteps, he, hlast⟩ := exists_enters_of_target htarget
      have hplain : t.target false p = .ok (.entry e name (p.text.endsWith "/")) :=
        target_false_eq_entry_iff.mpr ⟨htext, rfl, cs, k, hsteps, he⟩
      rw [walk_last fun q hq => hlink ⟨q, by rw [there?, hplain]; exact hq⟩, Except.ok.injEq,
        Target.entry.injEq] at hlast
      obtain ⟨rfl, rfl, rfl⟩ := hlast
      simp only [bind, Except.bind] at h
      split at h
      · cases h
      rename_i hslash
      rw [Bool.not_eq_true] at hslash
      rw [hslash] at hplain
      have hput : (∀ e', t.find? (e ++ [name]) = some e' → e'.isFile = true) ∧
          t' = t.put (e ++ [name]) (.file bytes) := by
        split at h
        · cases h
        · cases h
        · rename_i hfind
          cases h
          refine ⟨fun e' he' => ?_, rfl⟩
          cases hfind.symm.trans he'
          rfl
        · rename_i hfind
          cases h
          refine ⟨fun e' he' => ?_, rfl⟩
          cases hfind.symm.trans he'
      obtain ⟨hold, rfl⟩ := hput
      exact ⟨e ++ [name], place?_eq_some_iff.mpr ⟨e, name, hplain, rfl⟩, hold, rfl,
        find?_put_eq_update (fun h => Bool.false_ne_true (hold _ h)) _⟩

/-- After `move` what was at the place of `p` is at the place of `q`, and nothing else is different.
-/
theorem exists_places_of_move (h : t.move p q = .ok t') :
    ∃ source goal entry, t.place? p = some source ∧ t.place? q = some goal ∧
      t.find? source = some entry ∧ entry ≠ .directory ∧ t.find? goal ≠ some .directory ∧
      t'.cwd = t.cwd ∧
      t'.find? = Function.update (Function.update t.find? source none) goal (some entry) := by
  unfold move at h
  cases hp : t.target false p with
  | error e =>
    rw [hp] at h
    cases h
  | ok first =>
    cases hq : t.target false q with
    | error e =>
      rw [hp, hq] at h
      cases h
    | ok second =>
      rw [hp, hq] at h
      simp only [bind, Except.bind] at h
      split at h
      · rename_i source name slash goal name' slash'
        split at h
        · cases h
        · cases h
        · rename_i entry hne hentry
          split at h
          · cases h
          rename_i hslash
          obtain ⟨rfl, rfl⟩ : slash = false ∧ slash' = false := by simpa using hslash
          split at h
          · cases h
          rename_i hdirectory
          cases h
          have hsource : t.find? (source ++ [name]) ≠ some .directory := by
            rw [hentry]
            exact fun heq => hne (Option.some.inj heq)
          have herase := find?_erase_eq_update hsource
          have hgoal : (t.erase (source ++ [name])).find? (goal ++ [name']) ≠ some .directory := by
            rw [herase]
            by_cases heq : goal ++ [name'] = source ++ [name]
            · simp [heq]
            · rwa [Function.update_of_ne heq]
          refine ⟨source ++ [name], goal ++ [name'], entry,
            place?_eq_some_iff.mpr ⟨source, name, hp, rfl⟩,
            place?_eq_some_iff.mpr ⟨goal, name', hq, rfl⟩, hentry, hne, hdirectory, rfl, ?_⟩
          rw [find?_put_eq_update hgoal, herase]
      · cases h

/-- Where `t₀` has no links at the two places, `move` leaves its directories and links as they are.
-/
theorem Under.move {t₀ : FileTree} {source goal : Way} (ht : t₀.Under t) (h : t.move p q = .ok t')
    (hp : t₀.place? p = some source) (hq : t₀.place? q = some goal)
    (hsource : ∀ l, t₀.find? source ≠ some (.link l))
    (hgoal : ∀ l, t₀.find? goal ≠ some (.link l)) :
    t₀.Under t' ∧ t.find? goal ≠ some .directory ∧ ∃ entry, t.find? source = some entry ∧
      entry ≠ .directory ∧
      t'.find? = Function.update (Function.update t.find? source none) goal (some entry) := by
  obtain ⟨source', goal', entry, hp', hq', hentry, hne, hdirectory, hcwd, hupdate⟩ :=
    exists_places_of_move h
  cases hp'.symm.trans (ht.place? hp)
  cases hq'.symm.trans (ht.place? hq)
  refine ⟨ht.of_agree hcwd fun x hx => ?_, hdirectory, entry, hentry, hne, hupdate⟩
  by_cases hxg : x = goal
  · exact ⟨hxg ▸ hdirectory, hxg ▸ hgoal⟩
  by_cases hxs : x = source
  · refine ⟨?_, hxs ▸ hsource⟩
    rw [hxs, hentry]
    exact fun heq => hne (Option.some.inj heq)
  · simp [hupdate, hxg, hxs] at hx

/-- `move` succeeds for a file or a link, if no directory is where it goes. -/
theorem exists_move_of_places {source goal : Way} {entry : FileEntry}
    (hp : t.place? p = some source) (hq : t.place? q = some goal)
    (hentry : t.find? source = some entry) (hne : entry ≠ .directory)
    (hdirectory : t.find? goal ≠ some .directory) : ∃ t', t.move p q = .ok t' := by
  obtain ⟨d, name, hsource, rfl⟩ := place?_eq_some_iff.mp hp
  obtain ⟨d', name', hgoal, rfl⟩ := place?_eq_some_iff.mp hq
  refine ⟨(t.erase (d ++ [name])).put (d' ++ [name']) entry, ?_⟩
  cases entry with
  | directory => exact absurd rfl hne
  | file bytes => simp [move, hsource, hgoal, bind, Except.bind, hentry, hdirectory]
  | link path => simp [move, hsource, hgoal, bind, Except.bind, hentry, hdirectory]

/-- A path whose place has a file leads to a file. -/
theorem kind?_of_place? (hp : t.place? p = some w) (hfile : t.find? w = some (.file bytes)) :
    t.kind? p = some .file := by
  obtain ⟨d, name, htarget, rfl⟩ := place?_eq_some_iff.mp hp
  rw [kind?, stat, target_of_not_link htarget (by simp [hfile])]
  simp [bind, Except.bind, lookup, hfile]

/-- A path whose place has no link leads to a file exactly if there is one. -/
theorem kind?_eq_file_iff (hp : t.place? p = some w) (hlink : ∀ q, t.find? w ≠ some (.link q)) :
    t.kind? p = some .file ↔ ∃ bytes, t.find? w = some (.file bytes) := by
  refine ⟨fun hkind => ?_, fun ⟨bytes, hfile⟩ => kind?_of_place? hp hfile⟩
  obtain ⟨d, name, htarget, rfl⟩ := place?_eq_some_iff.mp hp
  rw [kind?, stat, target_of_not_link htarget hlink] at hkind
  cases hfind : t.find? (d ++ [name]) with
  | none => simp [bind, Except.bind, lookup, hfind] at hkind
  | some entry =>
    cases entry with
    | directory => simp [bind, Except.bind, lookup, hfind] at hkind
    | file bytes => exact ⟨bytes, rfl⟩
    | link q => exact absurd hfind (hlink q)

/-- A path that leads to a file has a name for its `target`. -/
theorem exists_target_of_kind? (h : t.kind? p = some .file) :
    ∃ d s b, t.target true p = .ok (.entry d s b) := by
  unfold kind? stat at h
  cases htarget : t.target true p with
  | error e =>
    rw [htarget] at h
    cases h
  | ok goal =>
    rw [htarget] at h
    cases goal with
    | directory way => cases h
    | entry d s b => exact ⟨d, s, b, rfl⟩

/-- What `read` gives for a path whose place has no link. -/
theorem read_eq_ok_iff (hp : t.place? p = some w) (hlink : ∀ q, t.find? w ≠ some (.link q)) :
    t.read p = .ok bytes ↔ t.find? w = some (.file bytes) := by
  obtain ⟨d, name, htarget, rfl⟩ := place?_eq_some_iff.mp hp
  simp only [read, stat, target_of_not_link htarget hlink, bind, Except.bind, lookup]
  cases hfind : t.find? (d ++ [name]) with
  | none => simp
  | some entry =>
    cases entry with
    | directory => simp
    | file bytes => simp
    | link q => exact absurd hfind (hlink q)

/-! ## Removing files and links -/

/-- The tree without the file or the link at the path `p`, if there is one. -/
def withoutFile (t : FileTree) (p : FilePath) : FileTree :=
  match t.remove p with
  | .ok t' => t'
  | .error _ => t

theorem run_attempt_remove (t : FileTree) (p : FilePath) :
    (attempt (FileAccess.remove p) : StateM FileTree Unit).run t = ((), t.withoutFile p) :=
  run_attempt_change

theorem remove_eq_ok_iff :
    t.remove p = .ok t' ↔ ∃ way entry, t.place? p = some way ∧ t.find? way = some entry ∧
      entry ≠ .directory ∧ t' = t.erase way := by
  unfold remove
  cases htarget : t.target false p with
  | error e => simp [place?, htarget, bind, Except.bind]
  | ok goal =>
    cases goal with
    | directory way => simp [place?, htarget, bind, Except.bind, lookup]
    | entry d name slash =>
      simp only [place?, htarget, bind, Except.bind, lookup, Target.way]
      cases hfind : t.find? (d ++ [name]) with
      | none => cases slash <;> simp [hfind]
      | some entry => cases entry <;> cases slash <;> simp [hfind, eq_comm]

/-- `withoutFile` changes nothing, or nothing but the place of the path. -/
theorem withoutFile_cases (t : FileTree) (p : FilePath) :
    (t.withoutFile p = t ∧ ∀ w e, t.place? p = some w → t.find? w = some e → e = .directory) ∨
      ∃ w e, t.place? p = some w ∧ t.find? w = some e ∧ e ≠ .directory ∧
        (t.withoutFile p).cwd = t.cwd ∧
        (t.withoutFile p).find? = Function.update t.find? w none := by
  unfold withoutFile
  cases hremove : t.remove p with
  | error e =>
    refine .inl ⟨rfl, fun w entry hplace hentry => ?_⟩
    by_contra hne
    rw [remove_eq_ok_iff.mpr ⟨w, entry, hplace, hentry, hne, rfl⟩] at hremove
    cases hremove
  | ok t' =>
    obtain ⟨w, entry, hplace, hentry, hne, rfl⟩ := remove_eq_ok_iff.mp hremove
    refine .inr ⟨w, entry, hplace, hentry, hne, rfl, find?_erase_eq_update ?_⟩
    rw [hentry]
    exact fun heq => hne (Option.some.inj heq)

/-- **The files that `withoutFile` leaves.** -/
theorem find?_withoutFile_eq_file_iff :
    (t.withoutFile p).find? x = some (.file bytes) ↔
      t.find? x = some (.file bytes) ∧ t.place? p ≠ some x := by
  obtain ⟨heq, hdirectory⟩ | ⟨w, e, hplace, -, -, -, hupdate⟩ := t.withoutFile_cases p
  · rw [heq]
    refine ⟨fun hfile => ⟨hfile, fun hplace => ?_⟩, And.left⟩
    cases hdirectory x _ hplace hfile
  · rw [hupdate, hplace]
    by_cases hx : x = w
    · simp [hx]
    · simp [hx, Ne.symm hx]

private theorem sameWays_withoutFile (h : ¬ t.HasLink p) : t.SameWays (t.withoutFile p) := by
  obtain ⟨heq, -⟩ | ⟨w, e, hplace, hentry, hne, hcwd, hupdate⟩ := t.withoutFile_cases p
  · rw [heq]
    exact .refl t
  · refine sameWays_of_update hcwd hupdate (fun e' he' => ?_) nofun
    cases hentry.symm.trans he'
    cases e with
    | directory => exact absurd rfl hne
    | file bytes => rfl
    | link q => exact absurd ⟨q, (there?_of_place? hplace).trans hentry⟩ h

/-- What `withoutFile` leaves is in the tree. -/
theorem under_withoutFile (t : FileTree) (p : FilePath) : (t.withoutFile p).Under t := by
  obtain ⟨heq, -⟩ | ⟨w, e, -, -, -, hcwd, hupdate⟩ := t.withoutFile_cases p
  · rw [heq]
    exact .refl t
  · refine ⟨hcwd.symm, fun x e' he' _ => ?_⟩
    rw [hupdate] at he'
    by_cases hx : x = w
    · simp [hx] at he'
    · rwa [Function.update_of_ne hx] at he'

/-- Where `t₀` has no link at the place of the path, `withoutFile` leaves its directories and links
as they are. -/
theorem Under.withoutFile {t₀ : FileTree} (ht : t₀.Under t) (hp : t₀.place? p = some w)
    (hlink : ∀ q, t₀.find? w ≠ some (.link q)) : t₀.Under (t.withoutFile p) := by
  obtain ⟨heq, -⟩ | ⟨w', e, hplace, hentry, hne, hcwd, hupdate⟩ := t.withoutFile_cases p
  · rwa [heq]
  · cases hplace.symm.trans (ht.place? hp)
    refine ht.of_agree hcwd fun x hx => ?_
    obtain rfl : x = w := by
      by_contra hxw
      rw [hupdate, Function.update_of_ne hxw] at hx
      exact hx rfl
    refine ⟨?_, hlink⟩
    rw [hentry]
    exact fun heq => hne (Option.some.inj heq)

private theorem keepsDirectories_withoutFile (t : FileTree) (p : FilePath) :
    t.KeepsDirectories (t.withoutFile p) := by
  intro x hx
  obtain ⟨heq, -⟩ | ⟨w, e, -, hentry, hne, -, hupdate⟩ := t.withoutFile_cases p
  · rwa [heq]
  · rw [hupdate, Function.update_of_ne]
    · exact hx
    · rintro rfl
      exact hne (Option.some.inj (hentry.symm.trans hx))

/-- The tree without the files and links at `paths`. -/
def withoutFiles (t : FileTree) (paths : List FilePath) : FileTree := paths.foldl withoutFile t

section Several

variable {paths : List FilePath}

private theorem withoutFiles_cons (t : FileTree) (p : FilePath) (rest : List FilePath) :
    t.withoutFiles (p :: rest) = (t.withoutFile p).withoutFiles rest := rfl

private theorem find?_withoutFiles_eq_file_iff (h : ∀ p ∈ paths, ¬ t.HasLink p) :
    (t.withoutFiles paths).find? x = some (.file bytes) ↔
      t.find? x = some (.file bytes) ∧ ∀ p ∈ paths, t.place? p ≠ some x := by
  induction paths generalizing t with
  | nil => simp [withoutFiles]
  | cons p rest ih =>
    rw [List.forall_mem_cons] at h
    have hsame := sameWays_withoutFile h.1
    rw [withoutFiles_cons, ih fun q hq hlink => h.2 q hq (hlink.of_under hsame.2),
      find?_withoutFile_eq_file_iff, List.forall_mem_cons, and_assoc]
    simp only [hsame.place?]

/-- **Clearing places where there were no files.** If `t` and `t'` differ in nothing but what is at
the places of `paths`, and `t` has no files there, then `withoutFiles` gives `t'` the files of `t`.
-/
theorem keepsFiles_withoutFiles (hlinks : ∀ p ∈ paths, ¬ t'.HasLink p)
    (hplaces : ∀ p ∈ paths, t'.place? p = t.place? p) (hfree : ∀ p ∈ paths, ¬ t.HasFile p)
    (hsame : ∀ x, (∀ p ∈ paths, t.place? p ≠ some x) → ∀ bytes,
      (t'.find? x = some (.file bytes) ↔ t.find? x = some (.file bytes))) :
    t.KeepsFiles (t'.withoutFiles paths) := by
  intro x bytes
  rw [find?_withoutFiles_eq_file_iff hlinks]
  constructor
  · rintro ⟨hfile, hother⟩
    exact (hsame x (fun p hp => hplaces p hp ▸ hother p hp) bytes).mp hfile
  · intro hfile
    have hother : ∀ p ∈ paths, t.place? p ≠ some x := fun p hp hplace =>
      hfree p hp ⟨bytes, (there?_of_place? hplace).trans hfile⟩
    exact ⟨(hsame x hother bytes).mpr hfile, fun p hp => (hplaces p hp).symm ▸ hother p hp⟩

theorem keepsDirectories_withoutFiles (t : FileTree) (paths : List FilePath) :
    t.KeepsDirectories (t.withoutFiles paths) := by
  induction paths generalizing t with
  | nil => exact fun _ => id
  | cons p rest ih =>
    exact fun x hx => ih (t.withoutFile p) x (keepsDirectories_withoutFile t p x hx)

theorem under_withoutFiles (t : FileTree) (paths : List FilePath) :
    (t.withoutFiles paths).Under t := by
  induction paths generalizing t with
  | nil => exact .refl t
  | cons p rest ih => exact (ih (t.withoutFile p)).trans (under_withoutFile t p)

/-- What `withoutFiles` leaves was there before. -/
theorem find?_of_withoutFiles {e : FileEntry} (h : (t.withoutFiles paths).find? x = some e) :
    t.find? x = some e := by
  induction paths generalizing t with
  | nil => exact h
  | cons p rest ih =>
    have hrest := ih h
    obtain ⟨heq, -⟩ | ⟨w, -, -, -, -, -, hupdate⟩ := t.withoutFile_cases p
    · rwa [heq] at hrest
    · rw [hupdate] at hrest
      by_cases hx : x = w
      · simp [hx] at hrest
      · rwa [Function.update_of_ne hx] at hrest

/-- Nothing but a directory is left at the place of one of `paths`. -/
theorem eq_directory_of_withoutFiles {e : FileEntry} (hp : p ∈ paths)
    (hplace : (t.withoutFiles paths).place? p = some x)
    (h : (t.withoutFiles paths).find? x = some e) : e = .directory := by
  induction paths generalizing t with
  | nil => cases hp
  | cons q rest ih =>
    obtain rfl | hmem := List.mem_cons.mp hp
    · have hthere : (t.withoutFile p).find? x = some e := find?_of_withoutFiles h
      have hfirst : t.place? p = some x := (under_withoutFiles t (p :: rest)).place? hplace
      obtain ⟨heq, hdirectory⟩ | ⟨w, _, hw, -, -, -, hupdate⟩ := t.withoutFile_cases p
      · exact hdirectory x e hfirst (heq ▸ hthere)
      · obtain rfl : x = w := Option.some.inj (hfirst.symm.trans hw)
        simp [hupdate] at hthere
    · exact ih hmem hplace h

end Several

/-! ## Making directories -/

private theorem keeps_makeDirectory (p : FilePath) :
    Keeps Extends (FileAccess.makeDirectory p : ExceptT OsError (StateM FileTree) Unit) := by
  intro t
  have hrun : (FileAccess.makeDirectory p : ExceptT OsError (StateM FileTree) Unit).run t =
      (change fun _ => t.makeDirectory p).run t := rfl
  rw [hrun]
  cases hmake : t.makeDirectory p with
  | error e => exact .refl t
  | ok t' =>
    show t.Extends t'
    unfold makeDirectory at hmake
    cases htarget : t.target false p with
    | error e =>
      rw [htarget] at hmake
      cases hmake
    | ok goal =>
      rw [htarget] at hmake
      simp only [bind, Except.bind] at hmake
      split at hmake
      · cases hmake
      · rename_i d name slash
        split at hmake
        · cases hmake
        · rename_i hnone
          cases hmake
          have hput := find?_put_eq_update (t := t) (w := d ++ [name]) (by simp [hnone]) .directory
          refine ⟨fun x bytes => ?_, fun x hx => ?_⟩
          · rw [hput]
            by_cases hxw : x = d ++ [name]
            · simp [hxw, hnone]
            · simp [hxw]
          · rw [hput]
            by_cases hxw : x = d ++ [name]
            · simp [hxw]
            · simpa [hxw] using hx

private theorem keeps_ensureDirectory (p : FilePath) :
    Keeps Extends (ensureDirectory p : ExceptT OsError (StateM FileTree) Unit) := by
  refine keeps_tryCatch .trans (keeps_makeDirectory p) fun e => ?_
  refine keeps_bind .trans (keeps_of_eq .refl fun _ => rfl) fun found => ?_
  cases found <;> exact keeps_of_eq .refl fun _ => rfl

private theorem keeps_createAtMost (n : Nat) (p : FilePath) :
    Keeps Extends (createAtMost n p : ExceptT OsError (StateM FileTree) Unit) := by
  induction n generalizing p with
  | zero => exact keeps_ensureDirectory p
  | succ n ih =>
    unfold createAtMost
    split
    · exact keeps_of_eq .refl fun _ => rfl
    · refine keeps_tryCatch .trans (keeps_ensureDirectory p) fun e => ?_
      split
      · exact keeps_bind .trans (ih _) fun _ => keeps_ensureDirectory p
      · exact keeps_of_eq .refl fun _ => rfl

/-- **`createDirectories`** adds directories and does nothing else, whether it succeeds or not. -/
theorem keeps_createDirectories (p : FilePath) :
    Keeps Extends (createDirectories p : ExceptT OsError (StateM FileTree) Unit) :=
  keeps_createAtMost _ p

private theorem exists_makeDirectory_error (h : t.kind? p = some .directory) :
    ∃ e, t.makeDirectory p = .error e := by
  unfold makeDirectory
  cases htarget : t.target false p with
  | error e => exact ⟨e, rfl⟩
  | ok goal =>
    simp only [bind, Except.bind]
    cases goal with
    | directory way => exact ⟨.alreadyExists, rfl⟩
    | entry d name slash =>
      cases hfind : t.find? (d ++ [name]) with
      | some entry => exact ⟨.alreadyExists, by simp only [hfind]⟩
      | none =>
        exfalso
        rw [kind?, stat, target_of_not_link htarget (by simp [hfind])] at h
        simp [bind, Except.bind, lookup, hfind] at h

/-- There is nothing to do for `createDirectories` if there is the directory. -/
theorem run_createDirectories_of_directory (h : t.kind? p = some .directory) :
    (createDirectories p : ExceptT OsError (StateM FileTree) Unit).run t = (.ok (), t) := by
  have htext : p.text ≠ "" := by
    intro htext
    simp [kind?, stat, target, htext, bind, Except.bind] at h
  obtain ⟨e, hmake⟩ := exists_makeDirectory_error h
  have hensure : (ensureDirectory p : ExceptT OsError (StateM FileTree) Unit).run t =
      (.ok (), t) := by
    refine run_tryCatch_eq_ok_iff.mpr (.inr ⟨e, t, ?_, ?_⟩)
    · exact run_change_eq_error_iff.mpr ⟨hmake, rfl⟩
    · refine run_bind_eq_ok_iff.mpr ⟨true, t, run_liftM_eq_ok_iff.mpr ?_, rfl⟩
      show (decide (t.kind? p = some .directory), t) = (true, t)
      rw [h]
      rfl
  unfold createDirectories createAtMost
  rw [if_neg htext]
  exact run_tryCatch_eq_ok_iff.mpr (.inl hensure)

end Boundary.FileTree
