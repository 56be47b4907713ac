import Boundary.Demo.Declarations
import Boundary.Proofs.Bindings.Exchange

/-!
# What successful writing delivers

Both files hold the sources when writing succeeds, unless the name of one file gets in the way of
the other. A name may do so because it may end like the names that are used in between.

* `Tidied`, `tidied_withoutBackup`: what is left when an earlier file has been removed.
* `native_kept`, `managed_kept`, `native_lost`: the entries of two files at the end.
* `Delivered`, `Clash`: both files hold the sources, and one is in the way of the other.
* `delivered_iff_of_write`: successful writing delivers exactly if there is no clash.
* `clash_iff_of_not_link`: what a clash is where the files are no symbolic links.
-/

namespace Boundary.Bindings

open FilePath FileTree Fallible

variable {t₀ t t' : FileTree}

/-! ## Removing earlier files -/

/-- What there is before (`f`) and after (`f'`) an earlier file has been removed from the place `b`,
if there was one. -/
structure Tidied {α : Type} (f : α → Option FileEntry) (b : α) (replaced : Bool)
    (f' : α → Option FileEntry) : Prop where
  removed : replaced = true → ∀ e, f' b = some e → e = .directory
  other : ∀ x, ¬ (replaced = true ∧ x = b) → f' x = f x

theorem tidied_withoutBackup {p : FilePath} {w s b : Way} (ht : t₀.Under t)
    (hp : Places t₀ p w s b) (replaced : Bool) :
    t₀.Under (withoutBackup t ⟨p, replaced⟩) ∧
      Tidied t.find? b replaced (withoutBackup t ⟨p, replaced⟩).find? := by
  unfold withoutBackup
  cases replaced with
  | false => exact ⟨ht, nofun, fun x _ => rfl⟩
  | true =>
    refine ⟨ht.withoutFile hp.aside (hp.ne_link b (.inr (.inr rfl))), ?_⟩
    have hplace : t.place? (backup p) = some b := ht.place? hp.aside
    obtain ⟨heq, hdirectory⟩ | ⟨w', e, hw', -, -, -, hupdate⟩ := t.withoutFile_cases (backup p)
    · simp only [if_true, heq]
      exact ⟨fun _ e he => hdirectory b e hplace he, fun _ _ => rfl⟩
    · obtain rfl : b = w' := Option.some.inj (hplace.symm.trans hw')
      simp only [if_true, hupdate]
      refine ⟨fun _ e he => ?_, fun x hx => ?_⟩
      · simp at he
      · rw [Function.update_of_ne fun heq => hx ⟨rfl, heq⟩]

/-! ## Two files in one directory -/

section Course

/-- What there is in the directory `d`, by names. -/
def folder (t : FileTree) (d : Way) (s : String) : Option FileEntry := t.find? (d ++ [s])

theorem Exchanged.folder {d : Way} {s : String} {replaced : Bool}
    (h : Exchanged t.find? (d ++ [s]) (d ++ [stagingName s]) (d ++ [backupName s]) replaced
      t'.find?) :
    Exchanged (folder t d) s (stagingName s) (backupName s) replaced (folder t' d) where
  placed := h.placed
  staged := h.staged
  aside := h.aside
  other x hs ht hb := h.other (d ++ [x]) (by simpa using hs) (by simpa using ht) (by simpa using hb)
  source := h.source
  earlier := h.earlier
  fresh := h.fresh

theorem Tidied.folder {d : Way} {s : String} {replaced : Bool}
    (h : Tidied t.find? (d ++ [backupName s]) replaced t'.find?) :
    Tidied (folder t d) (backupName s) replaced (folder t' d) where
  removed := h.removed
  other x hx := h.other (d ++ [x]) (by simpa using hx)

variable {n m : String} {native managed : List UInt8} {r r' : Bool}
  {f₂ f₃ f₄ f₅ f₆ : String → Option FileEntry}

/-- The native source is in its place at the end, unless the name `n` of its file is the
`backupName` of `m`, where an earlier managed file has been kept. -/
theorem native_kept (hnm : n ≠ m) (hstaging : n ≠ stagingName m)
    (hnative : f₂ (stagingName n) = some (.file native))
    (h₃ : Exchanged f₂ n (stagingName n) (backupName n) r f₃)
    (h₄ : Exchanged f₃ m (stagingName m) (backupName m) r' f₄) (h₅ : Tidied f₄ (backupName n) r f₅)
    (h₆ : Tidied f₅ (backupName m) r' f₆) (hkept : ¬ (n = backupName m ∧ r' = true)) :
    f₆ n = some (.file native) := by
  have hplaced : f₃ n = some (.file native) := h₃.placed.trans hnative
  rw [h₆.other n fun h => hkept ⟨h.2, h.1⟩, h₅.other n fun h => ne_backupName n h.2]
  by_cases hbackup : n = backupName m
  · have hr : r' = false := Bool.eq_false_iff.mpr fun hr => hkept ⟨hbackup, hr⟩
    have haside := h₄.aside
    rw [hr, if_neg Bool.false_ne_true, ← hbackup] at haside
    rw [haside, hplaced]
  · rw [h₄.other n hnm hstaging hbackup, hplaced]

/-- The managed source is in its place at the end, unless the name `m` of its file is the
`backupName` of `n`, where an earlier native file has been kept. -/
theorem managed_kept (hnm : n ≠ m) (hstaging : n ≠ stagingName m)
    (hmanaged : f₂ (stagingName m) = some (.file managed))
    (h₃ : Exchanged f₂ n (stagingName n) (backupName n) r f₃)
    (h₄ : Exchanged f₃ m (stagingName m) (backupName m) r' f₄) (h₅ : Tidied f₄ (backupName n) r f₅)
    (h₆ : Tidied f₅ (backupName m) r' f₆) (hkept : ¬ (m = backupName n ∧ r = true)) :
    f₆ m = some (.file managed) := by
  have hstaged : f₃ (stagingName m) = some (.file managed) := by
    rw [h₃.other _ (Ne.symm hstaging) (fun h => hnm (stagingName_injective h).symm)
      (stagingName_ne_backupName m n), hmanaged]
  rw [h₆.other m fun h => ne_backupName m h.2, h₅.other m fun h => hkept ⟨h.2, h.1⟩, h₄.placed,
    hstaged]

/-- If `m` is the `backupName` of `n`, and an earlier native file has been kept there, then it is
removed there, and nothing comes back when the managed one is tidied. -/
theorem managed_lost (h₅ : Tidied f₄ (backupName n) r f₅) (h₆ : Tidied f₅ (backupName m) r' f₆)
    (hbackup : m = backupName n) (hr : r = true) {e : FileEntry} (he : f₆ m = some e) :
    e = .directory := by
  rw [h₆.other m fun h => ne_backupName m h.2, hbackup] at he
  exact h₅.removed hr e he

/-- If `n` is the `stagingName` of `m`, then the managed source is moved away from there. -/
theorem native_lost (hstaging : n = stagingName m)
    (h₄ : Exchanged f₃ m (stagingName m) (backupName m) r' f₄) (h₅ : Tidied f₄ (backupName n) r f₅)
    (h₆ : Tidied f₅ (backupName m) r' f₆) : f₆ n = none := by
  have hbackup : n ≠ backupName m := hstaging ▸ stagingName_ne_backupName m m
  rw [h₆.other n fun h => hbackup h.2, h₅.other n fun h => ne_backupName n h.2, hstaging, h₄.staged]

end Course

/-! ## Successful writing -/

/-- The files of the configuration `c` in the directory `out` hold the sources. -/
def Delivered (b : Bindings) (t : FileTree) (out : FilePath) (c : Config) : Prop :=
  t.read (out.join c.nativeFile) = .ok (Text.Utf8.encode b.native) ∧
    t.read (out.join c.managedFile) = .ok (Text.Utf8.encode b.managed)

/-- The tree when both sources have been `Staged`. -/
def stagedTree (b : Bindings) (t : FileTree) (out : FilePath) (c : Config) : FileTree :=
  ((made t out).run (stageAll [] (b.targets out c) : ExceptT OsError (StateM FileTree) Unit)).2

/-- The `stagedTree` when the native source has also been put in its place. -/
def halfwayTree (b : Bindings) (t : FileTree) (out : FilePath) (c : Config) : FileTree :=
  ((b.stagedTree t out c).run
    (commit (out.join c.nativeFile) : ExceptT OsError (StateM FileTree) Committed)).2

private theorem stagedTree_eq {b : Bindings} {out : FilePath} {c : Config}
    (h : Staged (made t out) (b.targets out c) t') : b.stagedTree t out c = t' := by
  have hrun : (made t out).run
      (stageAll [] (b.targets out c) : ExceptT OsError (StateM FileTree) Unit) = (.ok (), t') :=
    h.run []
  rw [stagedTree, hrun]

private theorem halfwayTree_eq {b : Bindings} {out : FilePath} {c : Config} {replaced : Bool}
    (h : Placed (out.join c.nativeFile) (b.stagedTree t out c) replaced t') :
    b.halfwayTree t out c = t' := by
  have hrun : (b.stagedTree t out c).run
      (commit (out.join c.nativeFile) : ExceptT OsError (StateM FileTree) Committed) =
        (.ok ⟨out.join c.nativeFile, replaced⟩, t') := h.run
  rw [halfwayTree, hrun]

/-- The name of one of the files gets in the way of the other: what has been written for the other
one stands there, or an earlier file of the other one is kept there. There is an earlier file if the
path of the file leads to one when its turn comes. -/
def Clash (b : Bindings) (t : FileTree) (out : FilePath) (c : Config) : Prop :=
  c.nativeFile = stagingName c.managedFile ∨
    c.managedFile = backupName c.nativeFile ∧
      (b.stagedTree t out c).kind? (out.join c.nativeFile) = some .file ∨
    c.nativeFile = backupName c.managedFile ∧
      (b.halfwayTree t out c).kind? (out.join c.managedFile) = some .file

/-- A source is `Placed` only where the name `s` is not one or two points. -/
theorem Placed.isName {out : FilePath} {s : String} {replaced : Bool}
    (h : Placed (out.join s) t replaced t') (hs : isFileName s = true) :
    IsName s ∧ ∃ w, t.place? (out.join s) = some w := by
  have hplace : ∃ w, t.place? (out.join s) = some w := by
    cases h with
    | new _ hmove =>
      obtain ⟨_, w, _, -, hplace, -⟩ := exists_places_of_move hmove
      exact ⟨w, hplace⟩
    | replacing _ haside _ =>
      obtain ⟨w, _, _, hplace, -⟩ := exists_places_of_move haside
      exact ⟨w, hplace⟩
  obtain ⟨w, hw⟩ := hplace
  obtain ⟨d, name, htarget, -⟩ := place?_eq_some_iff.mp hw
  exact ⟨isName_of_target hs htarget, w, hw⟩

/-- Where a source is `Placed` in a tree with the same ways, the directory leads somewhere. -/
theorem Placed.exists_leads {out : FilePath} {s : String} {replaced : Bool} {files : List FilePath}
    (h : Placed (out.join s) t replaced t') (hs : isFileName s = true) (hsame : t₀.SameWays t)
    (hlinks : Unlinked t₀ files) (hmem : out.join s ∈ files) :
    IsName s ∧ ∃ d, (cleared t₀ files).Leads out d := by
  obtain ⟨hname, w, hplace⟩ := h.isName hs
  rw [hsame.place?] at hplace
  exact ⟨hname, hlinks.exists_leads hmem hname hplace⟩

/-- The course of successful writing: what there is in the directory `d` of both files after each
step. The folders `f₄` and `f₅` are those after the managed source has been put in its place, and
after an earlier native file has been removed. -/
structure Course (b : Bindings) (t : FileTree) (out : FilePath) (c : Config) (d : Way)
    (f₄ f₅ : String → Option FileEntry) (t' : FileTree) : Prop where
  isName_native : IsName c.nativeFile
  isName_managed : IsName c.managedFile
  leads : (cleared (made t out) (c.files out)).Leads out d
  under_staged : (cleared (made t out) (c.files out)).Under (b.stagedTree t out c)
  under_halfway : (cleared (made t out) (c.files out)).Under (b.halfwayTree t out c)
  under : (cleared (made t out) (c.files out)).Under t'
  staged : folder (b.stagedTree t out c) d = Function.update (Function.update
    (folder (made t out) d) (stagingName c.nativeFile) (some (.file (Text.Utf8.encode b.native))))
    (stagingName c.managedFile) (some (.file (Text.Utf8.encode b.managed)))
  native_placed : Exchanged (folder (b.stagedTree t out c) d) c.nativeFile
    (stagingName c.nativeFile) (backupName c.nativeFile)
    ((b.stagedTree t out c).kind? (out.join c.nativeFile) = some .file)
    (folder (b.halfwayTree t out c) d)
  managed_placed : Exchanged (folder (b.halfwayTree t out c) d) c.managedFile
    (stagingName c.managedFile) (backupName c.managedFile)
    ((b.halfwayTree t out c).kind? (out.join c.managedFile) = some .file) f₄
  native_tidied : Tidied f₄ (backupName c.nativeFile)
    ((b.stagedTree t out c).kind? (out.join c.nativeFile) = some .file) f₅
  managed_tidied : Tidied f₅ (backupName c.managedFile)
    ((b.halfwayTree t out c).kind? (out.join c.managedFile) = some .file) (folder t' d)

/-- Successful `write` takes this `Course`, and gives the paths of both files. -/
theorem exists_course (b : Bindings) {c : Config} (hc : c.fault? = none) {out : FilePath}
    (hlinks : Unlinked (made t out) (c.files out)) {paths : List FilePath}
    (h : t.run (b.write out c) = (.ok paths, t')) :
    paths = c.files out ∧ ∃ d f₄ f₅, b.Course t out c d f₄ f₅ t' := by
  obtain ⟨hnative, hmanaged, hnm⟩ := names_of_fault?_eq_none hc
  obtain ⟨hpaths, t₁, t₂, t₃, committed, hcreate, hstaged, hplaced, htidied⟩ :=
    b.exists_of_run_write h
  refine ⟨hpaths, ?_⟩
  obtain _ | ⟨hplacedNative, hrest⟩ := hplaced
  obtain _ | ⟨hplacedManaged, hnil⟩ := hrest
  cases hnil
  rename_i tHalfway r r'
  obtain rfl : made t out = t₁ := by rw [made, hcreate]
  obtain rfl := stagedTree_eq hstaged
  obtain rfl := halfwayTree_eq hplacedNative
  -- The way to the directory, and so all places, are those of the tree without the links.
  have hsame := hstaged.sameWays hlinks.not_hasLink
  obtain ⟨hn, d, hd⟩ := hplacedNative.exists_leads hnative hsame hlinks (by simp [Config.files])
  obtain ⟨hm, -⟩ := hplacedManaged.isName hmanaged
  have hpn := hlinks.places (by simp [Config.files]) hn hd
  have hpm := hlinks.places (by simp [Config.files]) hm hd
  have hu := Unlinked.under (made t out) (c.files out)
  have hu₂ := hu.trans hsame.1
  obtain ⟨hu₃, hexchangedNative⟩ := hplacedNative.exchanged hu₂ hpn
  obtain ⟨hu₄, hexchangedManaged⟩ := hplacedManaged.exchanged hu₃ hpm
  obtain ⟨hu₅, htidiedNative⟩ := tidied_withoutBackup hu₄ hpn r
  obtain ⟨hu₆, htidiedManaged⟩ := tidied_withoutBackup hu₅ hpm r'
  subst htidied
  obtain ⟨x, y, hx, hy, hupdate⟩ := hstaged.exists_places
    (hlinks.staged _ (by simp [Config.files])) (hlinks.staged _ (by simp [Config.files]))
  cases hx.symm.trans (hu.place? hpn.staged)
  cases hy.symm.trans (hu.place? hpm.staged)
  obtain rfl : decide ((b.stagedTree t out c).kind? (out.join c.nativeFile) = some .file) = r :=
    Bool.eq_iff_iff.mpr (by rw [decide_eq_true_iff, hplacedNative.replaced_eq])
  obtain rfl : decide ((b.halfwayTree t out c).kind? (out.join c.managedFile) = some .file) = r' :=
    Bool.eq_iff_iff.mpr (by rw [decide_eq_true_iff, hplacedManaged.replaced_eq])
  refine ⟨d, _, _, hn, hm, hd, hu₂, hu₃, hu₆, ?_, hexchangedNative.folder,
    hexchangedManaged.folder, htidiedNative.folder, htidiedManaged.folder⟩
  funext s
  simp [folder, hupdate, Function.update_apply]

/-- **What successful writing delivers.** `write` gives the paths of both files; and they hold the
sources exactly if there is no `Clash` of their names. -/
theorem delivered_iff_of_write (b : Bindings) {c : Config} (hc : c.fault? = none) (out : FilePath)
    (t : FileTree) (hlinks : Unlinked (made t out) (c.files out)) {paths : List FilePath}
    {t' : FileTree} (h : t.run (b.write out c) = (.ok paths, t')) :
    paths = [out.join c.nativeFile, out.join c.managedFile] ∧
      (b.Delivered t' out c ↔ ¬ b.Clash t out c) := by
  obtain ⟨-, -, hnm⟩ := names_of_fault?_eq_none hc
  obtain ⟨hpaths, d, f₄, f₅, hcourse⟩ := b.exists_course hc hlinks h
  refine ⟨hpaths, ?_⟩
  have hstagedNative : folder (b.stagedTree t out c) d (stagingName c.nativeFile) =
      some (.file (Text.Utf8.encode b.native)) := by
    rw [hcourse.staged, Function.update_of_ne fun h => hnm (stagingName_injective h),
      Function.update_self]
  have hstagedManaged : folder (b.stagedTree t out c) d (stagingName c.managedFile) =
      some (.file (Text.Utf8.encode b.managed)) := by
    rw [hcourse.staged, Function.update_self]
  have hplaceNative := hcourse.under.place? (hcourse.leads.place? hcourse.isName_native)
  have hplaceManaged := hcourse.under.place? (hcourse.leads.place? hcourse.isName_managed)
  have hlost {s : String} (hplace : t'.place? (out.join s) = some (d ++ [s]))
      (h : ∀ e, folder t' d s = some e → e = .directory) (bytes : List UInt8) :
      t'.read (out.join s) ≠ .ok bytes := by
    rw [Ne, read_eq_ok_iff hplace fun q hq => nomatch h _ hq]
    exact fun hfile => nomatch h _ hfile
  constructor
  · rintro ⟨hn, hm⟩ (hstaging | ⟨hbackup, hkind⟩ | ⟨hbackup, hkind⟩)
    · have hnone := native_lost hstaging hcourse.managed_placed hcourse.native_tidied
        hcourse.managed_tidied
      exact hlost hplaceNative (fun e he => nomatch hnone.symm.trans he) _ hn
    · exact hlost hplaceManaged (fun e => managed_lost hcourse.native_tidied
        hcourse.managed_tidied hbackup (decide_eq_true hkind)) _ hm
    · refine hlost hplaceNative (fun e he => ?_) _ hn
      rw [hbackup] at he
      exact hcourse.managed_tidied.removed (decide_eq_true hkind) e he
  · intro hclash
    simp only [Clash, not_or] at hclash
    obtain ⟨hstaging, hbackupNative, hbackupManaged⟩ := hclash
    have hnative := native_kept hnm hstaging hstagedNative hcourse.native_placed
      hcourse.managed_placed hcourse.native_tidied hcourse.managed_tidied
      fun h => hbackupManaged ⟨h.1, of_decide_eq_true h.2⟩
    have hmanaged := managed_kept hnm hstaging hstagedManaged hcourse.native_placed
      hcourse.managed_placed hcourse.native_tidied hcourse.managed_tidied
      fun h => hbackupNative ⟨h.1, of_decide_eq_true h.2⟩
    refine ⟨(read_eq_ok_iff hplaceNative fun q hq => ?_).mpr hnative,
      (read_eq_ok_iff hplaceManaged fun q hq => ?_).mpr hmanaged⟩
    · cases hnative.symm.trans hq
    · cases hmanaged.symm.trans hq

/-- Where the files are no symbolic links, what counts for a `Clash` is which of them are there
before. -/
theorem clash_iff_of_not_link (b : Bindings) {c : Config} (hc : c.fault? = none) {out : FilePath}
    (hlinks : Unlinked (made t out) (c.files out))
    (hfiles : ∀ p ∈ c.files out, ¬ (made t out).HasLink p) {paths : List FilePath}
    (h : t.run (b.write out c) = (.ok paths, t')) :
    b.Clash t out c ↔ c.nativeFile = stagingName c.managedFile ∨
      c.managedFile = backupName c.nativeFile ∧
        (made t out).kind? (out.join c.nativeFile) = some .file ∨
      c.nativeFile = backupName c.managedFile ∧
        (made t out).kind? (out.join c.managedFile) = some .file := by
  obtain ⟨-, -, hnm⟩ := names_of_fault?_eq_none hc
  obtain ⟨-, d, f₄, f₅, hcourse⟩ := b.exists_course hc hlinks h
  have hkind {t₂ : FileTree} {s : String} (hs : IsName s)
      (hu : (cleared (made t out) (c.files out)).Under t₂) (hmem : out.join s ∈ c.files out)
      (hfolder : folder t₂ d s = folder (made t out) d s) :
      t₂.kind? (out.join s) = some .file ↔ (made t out).kind? (out.join s) = some .file := by
    have hplace := (Unlinked.under _ _).place? (hcourse.leads.place? hs)
    have hlink : ∀ q, (made t out).find? (d ++ [s]) ≠ some (.link q) := fun q hq =>
      hfiles _ hmem ⟨q, (there?_of_place? hplace).trans hq⟩
    rw [kind?_eq_file_iff (hu.place? (hcourse.leads.place? hs)) fun q hq =>
      hlink q (hfolder.symm.trans hq), kind?_eq_file_iff hplace hlink]
    exact exists_congr fun bytes => by rw [← folder, ← folder, hfolder]
  -- A file under whose other name the other file stands has the shorter name, so that nothing is
  -- done to it before its turn comes.
  have hshort {s s' : String} (hbackup : s = backupName s') :
      s' ≠ stagingName s ∧ s' ≠ backupName s := by
    have hlength := congrArg String.length hbackup
    rw [length_backupName] at hlength
    refine ⟨fun h => ?_, fun h => ?_⟩
    · have := congrArg String.length h
      rw [length_stagingName] at this
      omega
    · have := congrArg String.length h
      rw [length_backupName] at this
      omega
  refine or_congr_right (or_congr (and_congr_right fun hbackup => ?_)
    (and_congr_right fun hbackup => ?_))
  · refine hkind hcourse.isName_native hcourse.under_staged (by simp [Config.files]) ?_
    rw [hcourse.staged, Function.update_of_ne (hshort hbackup).1,
      Function.update_of_ne (ne_stagingName _)]
  · refine hkind hcourse.isName_managed hcourse.under_halfway (by simp [Config.files]) ?_
    rw [hcourse.native_placed.other _ (Ne.symm hnm) (hshort hbackup).1 (hshort hbackup).2,
      hcourse.staged, Function.update_of_ne (ne_stagingName _),
      Function.update_of_ne (hshort hbackup).1]

/-! ### Two writings -/

section Writings

instance (b : Bindings) (t : FileTree) (out : FilePath) (c : Config) :
    Decidable (b.Clash t out c) :=
  inferInstanceAs (Decidable (_ ∨ _ ∧ _ ∨ _ ∧ _))

/-- A function that takes and returns nothing. -/
def resetting : List Declaration := [Demo.functionDecl "reset" [] .unit 1]

/-- The schema of `resetting`. -/
def resettingSchema : Schema := (Surroundings.ofDeclarations defaultFacade resetting).schema

private theorem build_resetting : Schema.build defaultFacade resetting = .ok resettingSchema :=
  Schema.build_eq_ok_iff.mpr ⟨by decide +kernel, rfl⟩

/-- The directory for the files. -/
def out : FilePath := ⟨"out"⟩

/-- A native file under the name under which the managed source is written first. -/
def tangled : Config := { nativeFile := "a.crossbind-tmp", managedFile := "a" }

/-- The outcome of writing with `tangled` into an empty tree, and the tree afterwards. -/
def writeTangled : Except OsError (List FilePath) × FileTree :=
  FileTree.run {} ((resettingSchema.bindings tangled).write out tangled)

/-- With `tangled` the native file is missing although writing succeeds and names it. -/
theorem not_delivered_tangled :
    Schema.build defaultFacade resetting = .ok resettingSchema ∧ tangled.fault? = none ∧
      writeTangled.1 = .ok [out.join tangled.nativeFile, out.join tangled.managedFile] ∧
      ¬ (resettingSchema.bindings tangled).Delivered writeTangled.2 out tangled := by
  obtain ⟨hok, hmissing⟩ :
      writeTangled.1.toOption = some [out.join tangled.nativeFile, out.join tangled.managedFile] ∧
        (writeTangled.2.read (out.join tangled.nativeFile)).toOption = none := by
    decide +kernel
  refine ⟨build_resetting, by decide +kernel, toOption_eq_some_iff.mp hok, ?_⟩
  rintro ⟨hnative, -⟩
  rw [toOption_eq_some_iff.mpr hnative] at hmissing
  cases hmissing

/-- A tree with an earlier native file, to which the directory for the files leads by a symbolic
link. -/
def earlier : FileTree where
  entries := [(["work", "out"], .link ⟨"/srv/demo"⟩), (["srv"], .directory),
    (["srv", "demo"], .directory), (["srv", "demo", "bindings.rs"], .file [0])]

/-- An earlier native file is replaced, and both files hold the sources. -/
theorem delivered_iff_of_write_earlier :
    let written := earlier.run ((resettingSchema.bindings {}).write out {})
    ({} : Config).fault? = none ∧
      written.1 = .ok [out.join "bindings.rs", out.join "Bindings.cs"] ∧
      (resettingSchema.bindings {}).Delivered written.2 out {} := by
  have hfault : ({} : Config).fault? = none := by decide +kernel
  have hok : (earlier.run ((resettingSchema.bindings {}).write out {})).1.toOption =
      some [out.join "bindings.rs", out.join "Bindings.cs"] := by
    decide +kernel
  have hlinks : Unlinked (made earlier out) (({} : Config).files out) :=
    ⟨by decide +kernel, by decide +kernel⟩
  have hclash : ¬ (resettingSchema.bindings {}).Clash earlier out {} := by decide +kernel
  generalize hwritten : earlier.run ((resettingSchema.bindings {}).write out {}) = written at hok ⊢
  obtain ⟨r, t'⟩ := written
  obtain rfl := toOption_eq_some_iff.mp hok
  have hwrite :=
    delivered_iff_of_write (resettingSchema.bindings {}) hfault out earlier hlinks hwritten
  exact ⟨hfault, rfl, hwrite.2.mpr hclash⟩

end Writings

end Boundary.Bindings
