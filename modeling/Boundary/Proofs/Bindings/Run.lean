import Boundary.Bindings.Write
import Boundary.Proofs.Files.Place

/-!
# What writing does to a tree of files

Successful writing, step by step: the sources are written under other names, each takes its place,
and the earlier files are removed.

* `Staged`, `Placed`, `PlacedAll`, `withoutBackup`: what the steps do to a tree.
* `staged_of_run`, `placed_of_run`, `placedAll_of_run`, `run_removeBackups`: the actions take
  these steps when they succeed.
* `exists_of_run_write`: so does writing.
-/

namespace Boundary.Bindings

open FilePath FileTree Fallible

/-! ## Steps -/

/-- The sources of some files have been written to their `staging` paths. -/
inductive Staged : FileTree → List (FilePath × String) → FileTree → Prop
  | nil (t : FileTree) : Staged t [] t
  | cons {t t₁ t' : FileTree} {p : FilePath} {source : String}
    {rest : List (FilePath × String)}
    (hwrite : t.write (staging p) (Text.Utf8.encode source) = .ok t₁)
    (hrest : Staged t₁ rest t') : Staged t ((p, source) :: rest) t'

/-- The source of the file `p` has been put in its place by `commit`, and an earlier file has been
moved aside. -/
inductive Placed (p : FilePath) : FileTree → Bool → FileTree → Prop
  | new {t t' : FileTree} (hfile : t.kind? p ≠ some .file)
    (hmove : t.move (staging p) p = .ok t') : Placed p t false t'
  | replacing {t t₁ t' : FileTree} (hfile : t.kind? p = some .file)
    (haside : t.move p (backup p) = .ok t₁) (hmove : t₁.move (staging p) p = .ok t') :
    Placed p t true t'

/-- The sources of files have been `Placed`, one after the other. -/
inductive PlacedAll : FileTree → List FilePath → List Committed → FileTree → Prop
  | nil (t : FileTree) : PlacedAll t [] [] t
  | cons {t t₁ t' : FileTree} {p : FilePath} {replaced : Bool} {rest : List FilePath}
    {committed : List Committed} (hplaced : Placed p t replaced t₁)
    (hrest : PlacedAll t₁ rest committed t') :
    PlacedAll t (p :: rest) (⟨p, replaced⟩ :: committed) t'

/-- The tree without the earlier file of `c`, which has been moved aside. -/
def withoutBackup (t : FileTree) (c : Committed) : FileTree :=
  if c.replaced then t.withoutFile (backup c.path) else t

/-! ## Actions -/

variable {t t' : FileTree}

theorem staged_of_run {staged : List FilePath} {files : List (FilePath × String)}
    (h : (stageAll staged files : ExceptT OsError (StateM FileTree) Unit).run t = (.ok (), t')) :
    Staged t files t' := by
  induction files generalizing staged t with
  | nil =>
    obtain ⟨-, rfl⟩ := run_pure_eq_ok_iff.mp h
    exact .nil t
  | cons file rest ih =>
    obtain ⟨p, source⟩ := file
    obtain ⟨_, t₁, hfirst, hrest⟩ := run_bind_eq_ok_iff.mp h
    obtain hwrite | ⟨e, m, -, hhandler⟩ := run_tryCatch_eq_ok_iff.mp hfirst
    · exact .cons (run_change_eq_ok_iff.mp hwrite) (ih hrest)
    · obtain ⟨_, _, -, hhandler⟩ := run_bind_eq_ok_iff.mp hhandler
      obtain ⟨_, _, -, hhandler⟩ := run_bind_eq_ok_iff.mp hhandler
      exact absurd hhandler run_throw_ne_ok

theorem Staged.run {files : List (FilePath × String)} (h : Staged t files t')
    (staged : List FilePath) :
    (stageAll staged files : ExceptT OsError (StateM FileTree) Unit).run t = (.ok (), t') := by
  induction h generalizing staged with
  | nil t => rfl
  | cons hwrite _ ih =>
    exact run_bind_eq_ok_iff.mpr ⟨(), _,
      run_tryCatch_eq_ok_iff.mpr (.inl (run_change_eq_ok_iff.mpr hwrite)), ih _⟩

theorem placed_of_run {p : FilePath} {c : Committed}
    (h : (commit p : ExceptT OsError (StateM FileTree) Committed).run t = (.ok c, t')) :
    c.path = p ∧ Placed p t c.replaced t' := by
  obtain ⟨replaced, t₁, hfile, h⟩ := run_bind_eq_ok_iff.mp h
  obtain ⟨rfl, rfl⟩ : decide (t.kind? p = some .file) = replaced ∧ t = t₁ := by
    cases run_liftM_eq_ok_iff.mp hfile
    exact ⟨rfl, rfl⟩
  by_cases hkind : t.kind? p = some .file
  · simp only [hkind, decide_true, if_true] at h
    obtain ⟨_, t₁, haside, h⟩ := run_bind_eq_ok_iff.mp h
    obtain ⟨_, t₂, htry, h⟩ := run_bind_eq_ok_iff.mp h
    obtain ⟨rfl, rfl⟩ := run_pure_eq_ok_iff.mp h
    obtain hmove | ⟨e, m, -, hhandler⟩ := run_tryCatch_eq_ok_iff.mp htry
    · exact ⟨rfl, .replacing hkind (run_change_eq_ok_iff.mp haside) (run_change_eq_ok_iff.mp hmove)⟩
    · obtain ⟨_, _, -, hhandler⟩ := run_bind_eq_ok_iff.mp hhandler
      exact absurd hhandler run_throw_ne_ok
  · simp only [hkind, decide_false, Bool.false_eq_true, if_false] at h
    obtain ⟨_, t₁, htry, h⟩ := run_bind_eq_ok_iff.mp h
    obtain ⟨rfl, rfl⟩ := run_pure_eq_ok_iff.mp h
    obtain hmove | ⟨e, m, -, hhandler⟩ := run_tryCatch_eq_ok_iff.mp htry
    · exact ⟨rfl, .new hkind (run_change_eq_ok_iff.mp hmove)⟩
    · exact absurd hhandler run_throw_ne_ok

theorem Placed.run {p : FilePath} {replaced : Bool} (h : Placed p t replaced t') :
    (commit p : ExceptT OsError (StateM FileTree) Committed).run t = (.ok ⟨p, replaced⟩, t') := by
  have hkind : (liftM (isFile p : StateM FileTree Bool) :
      ExceptT OsError (StateM FileTree) Bool).run t = (.ok (decide (t.kind? p = some .file)), t) :=
    rfl
  refine run_bind_eq_ok_iff.mpr ⟨_, t, hkind, ?_⟩
  cases h with
  | new hfile hmove =>
    simp only [hfile, decide_false, Bool.false_eq_true, if_false]
    exact run_bind_eq_ok_iff.mpr ⟨(), _,
      run_tryCatch_eq_ok_iff.mpr (.inl (run_change_eq_ok_iff.mpr hmove)), rfl⟩
  | replacing hfile haside hmove =>
    simp only [hfile, decide_true, if_true]
    refine run_bind_eq_ok_iff.mpr ⟨(), _, run_change_eq_ok_iff.mpr haside, ?_⟩
    exact run_bind_eq_ok_iff.mpr ⟨(), _,
      run_tryCatch_eq_ok_iff.mpr (.inl (run_change_eq_ok_iff.mpr hmove)), rfl⟩

theorem placedAll_of_run {all paths : List FilePath} {committed result : List Committed}
    (h : (commitAll all committed paths :
      ExceptT OsError (StateM FileTree) (List Committed)).run t = (.ok result, t')) :
    ∃ placed, result = committed ++ placed ∧ PlacedAll t paths placed t' := by
  induction paths generalizing committed t with
  | nil =>
    obtain ⟨rfl, rfl⟩ := run_pure_eq_ok_iff.mp h
    exact ⟨[], by simp, .nil t⟩
  | cons p rest ih =>
    obtain ⟨c, t₁, hfirst, hrest⟩ := run_bind_eq_ok_iff.mp h
    obtain hcommit | ⟨e, m, -, hhandler⟩ := run_tryCatch_eq_ok_iff.mp hfirst
    · obtain ⟨rfl, hplaced⟩ := placed_of_run hcommit
      obtain ⟨placed, rfl, hall⟩ := ih hrest
      exact ⟨c :: placed, by simp, .cons hplaced hall⟩
    · obtain ⟨_, _, -, hhandler⟩ := run_bind_eq_ok_iff.mp hhandler
      obtain ⟨_, _, -, hhandler⟩ := run_bind_eq_ok_iff.mp hhandler
      exact absurd hhandler run_throw_ne_ok

theorem run_removeBackups (committed : List Committed) (t : FileTree) :
    (removeBackups committed : StateM FileTree Unit).run t =
      ((), committed.foldl withoutBackup t) := by
  induction committed generalizing t with
  | nil => rfl
  | cons c rest ih =>
    have hfirst : (if c.replaced then attempt (FileAccess.remove (backup c.path)) else pure () :
        StateM FileTree Unit).run t = ((), withoutBackup t c) := by
      unfold withoutBackup
      cases c.replaced with
      | true => exact run_attempt_remove t (backup c.path)
      | false => rfl
    show ((do
      (if c.replaced then attempt (FileAccess.remove (backup c.path)) else pure () :
        StateM FileTree Unit)
      removeBackups rest) : StateM FileTree Unit).run t = _
    rw [StateT.run_bind, hfirst]
    exact ih _

/-- What `write` does when it succeeds: all files are `Staged`, then `PlacedAll`, and the earlier
ones removed. -/
theorem exists_of_run_write (b : Bindings) {out : FilePath} {c : Config} {paths : List FilePath}
    (h : t.run (b.write out c) = (.ok paths, t')) :
    paths = (b.targets out c).map (·.1) ∧ ∃ t₁ t₂ t₃ committed,
      t.run (createDirectories out : ExceptT OsError (StateM FileTree) Unit) = (.ok (), t₁) ∧
      Staged t₁ (b.targets out c) t₂ ∧
      PlacedAll t₂ ((b.targets out c).map (·.1)) committed t₃ ∧
      t' = committed.foldl withoutBackup t₃ := by
  obtain ⟨_, t₁, hcreate, h⟩ := run_bind_eq_ok_iff.mp h
  obtain ⟨_, t₂, hstage, h⟩ := run_bind_eq_ok_iff.mp h
  obtain ⟨committed, t₃, hcommit, h⟩ := run_bind_eq_ok_iff.mp h
  obtain ⟨_, t₄, hremove, h⟩ := run_bind_eq_ok_iff.mp h
  obtain ⟨rfl, rfl⟩ := run_pure_eq_ok_iff.mp h
  obtain ⟨placed, hplaced, hall⟩ := placedAll_of_run hcommit
  rw [List.nil_append] at hplaced
  subst hplaced
  refine ⟨rfl, t₁, t₂, t₃, _, hcreate, staged_of_run hstage, hall, ?_⟩
  have hrun := run_liftM_eq_ok_iff.mp hremove
  rw [run_removeBackups] at hrun
  exact (congrArg Prod.snd hrun).symm

end Boundary.Bindings
