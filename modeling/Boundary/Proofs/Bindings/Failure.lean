import Boundary.Proofs.Bindings.Delivery
import Boundary.Proofs.Config

/-!
# What failed writing leaves behind

Writing that fails leaves every file as it was and no file that was not there, provided that none
was in the places that are used in between and that no symbolic link is in the way.

* `abandoned_of_run`, `halted_of_run`: the steps that writing has taken when it fails.
* `eq_of_run_commit_error`: a source that cannot be put in its place leaves the tree as it is.
* `find?_undone`: what is put back.
* `Unoccupied`: no file is in the places that are used in between.
* `keepsFiles_of_run_generate_error`: failed generation changes no file.
* `not_keepsFiles_elsewhere`: it may do so where a path comes to lead elsewhere.
-/

namespace Boundary

namespace Bindings

open FilePath FileTree Fallible

variable {t₀ t t' : FileTree}

/-! ## Actions that put things back -/

/-- The tree when the source of `c` has been taken out of its place again. -/
def undone (t : FileTree) (c : Committed) : FileTree :=
  if c.replaced then
    match t.move (backup c.path) c.path with
    | .ok t' => t'
    | .error _ => t
  else t.withoutFile c.path

theorem run_discard (paths : List FilePath) (t : FileTree) :
    (discard paths : StateM FileTree Unit).run t = ((), t.withoutFiles (paths.map staging)) := by
  induction paths generalizing t with
  | nil => rfl
  | cons p rest ih =>
    show ((do
      attempt (FileAccess.remove (staging p))
      discard rest) : StateM FileTree Unit).run t = _
    rw [StateT.run_bind, run_attempt_remove]
    exact ih _

private theorem run_rollBack (committed : List Committed) (t : FileTree) :
    (rollBack committed : StateM FileTree Unit).run t =
      ((), committed.reverse.foldl undone t) := by
  unfold rollBack
  induction committed.reverse generalizing t with
  | nil => rfl
  | cons c rest ih =>
    have hfirst : (if c.replaced then attempt (FileAccess.move (backup c.path) c.path)
        else attempt (FileAccess.remove c.path) : StateM FileTree Unit).run t =
          ((), undone t c) := by
      unfold undone
      cases c.replaced with
      | true => exact run_attempt_change
      | false => exact run_attempt_remove t c.path
    show StateT.run (_ >>= fun _ => _) t = _
    rw [StateT.run_bind, hfirst]
    exact ih _

/-- If `stageAll` fails, the sources of the files `done` have been written when that of the next one
cannot be; then all of them are removed. -/
theorem abandoned_of_run {staged : List FilePath} {files : List (FilePath × String)} {e : OsError}
    (h : (stageAll staged files : ExceptT OsError (StateM FileTree) Unit).run t =
      (.error e, t')) :
    ∃ done p source rest t₁, files = done ++ (p, source) :: rest ∧ Staged t done t₁ ∧
      t' = t₁.withoutFiles ((staged ++ done.map (·.1) ++ [p]).map staging) := by
  induction files generalizing staged t with
  | nil => exact absurd h run_pure_ne_error
  | cons file rest ih =>
    obtain ⟨p, source⟩ := file
    obtain hfirst | ⟨_, t₁, hfirst, hrest⟩ := run_bind_eq_error_iff.mp h
    · obtain ⟨e₁, m, hwrite, hhandler⟩ := run_tryCatch_eq_error_iff.mp hfirst
      obtain ⟨-, rfl⟩ := run_change_eq_error_iff.mp hwrite
      rw [run_liftM_bind_eq_error_iff, run_discard, run_liftM_bind_eq_error_iff,
        run_attempt_remove, run_throw_eq_error_iff] at hhandler
      refine ⟨[], p, source, rest, t, rfl, .nil t, ?_⟩
      rw [← hhandler.2]
      simp [withoutFiles]
    · obtain hwrite | ⟨e₁, m, -, hhandler⟩ := run_tryCatch_eq_ok_iff.mp hfirst
      · obtain ⟨done, q, source', rest', t₂, rfl, hstaged, htree⟩ := ih hrest
        refine ⟨(p, source) :: done, q, source', rest', t₂, rfl,
          .cons (run_change_eq_ok_iff.mp hwrite) hstaged, ?_⟩
        simpa using htree
      · obtain ⟨_, _, -, hhandler⟩ := run_bind_eq_ok_iff.mp hhandler
        obtain ⟨_, _, -, hhandler⟩ := run_bind_eq_ok_iff.mp hhandler
        exact absurd hhandler run_throw_ne_ok

/-- If `commitAll` fails, the sources of `done` have been put in their places when that of `p`
cannot be; then these are taken out again, and what has been written is removed. -/
theorem halted_of_run {all paths : List FilePath} {committed : List Committed} {e : OsError}
    (h : (commitAll all committed paths :
      ExceptT OsError (StateM FileTree) (List Committed)).run t = (.error e, t')) :
    ∃ done p rest placed t₁ t₂ e₁, paths = done ++ p :: rest ∧ PlacedAll t done placed t₁ ∧
      (commit p : ExceptT OsError (StateM FileTree) Committed).run t₁ = (.error e₁, t₂) ∧
      t' = ((committed ++ placed).reverse.foldl undone t₂).withoutFiles (all.map staging) := by
  induction paths generalizing committed t with
  | nil => exact absurd h run_pure_ne_error
  | cons p rest ih =>
    obtain hfirst | ⟨c, t₁, hfirst, hrest⟩ := run_bind_eq_error_iff.mp h
    · obtain ⟨e₁, t₂, hcommit, hhandler⟩ := run_tryCatch_eq_error_iff.mp hfirst
      rw [run_liftM_bind_eq_error_iff, run_rollBack, run_liftM_bind_eq_error_iff, run_discard,
        run_throw_eq_error_iff] at hhandler
      refine ⟨[], p, rest, [], t, t₂, e₁, rfl, .nil t, hcommit, ?_⟩
      rw [List.append_nil, ← hhandler.2]
    · obtain hcommit | ⟨e₁, m, -, hhandler⟩ := run_tryCatch_eq_ok_iff.mp hfirst
      · obtain ⟨rfl, hplaced⟩ := placed_of_run hcommit
        obtain ⟨done, q, rest', placed, t₂, t₃, e₂, rfl, hall, hfail, htree⟩ := ih hrest
        refine ⟨c.path :: done, q, rest', c :: placed, t₂, t₃, e₂, rfl, .cons hplaced hall, hfail,
          ?_⟩
        rw [htree, List.append_assoc, List.singleton_append]
      · obtain ⟨_, _, -, hhandler⟩ := run_bind_eq_ok_iff.mp hhandler
        obtain ⟨_, _, -, hhandler⟩ := run_bind_eq_ok_iff.mp hhandler
        exact absurd hhandler run_throw_ne_ok

/-! ## Sources that cannot be put in their places -/

section Undone

variable {p : FilePath} {w s b : Way}

/-- **A source that cannot be put in its place** leaves the tree as it is, if `commit` finds it
where it has been written. Once the earlier file has been moved aside nothing is in the way any
more. -/
theorem eq_of_run_commit_error {e : OsError} (ht : t₀.Under t)
    (h : (commit p : ExceptT OsError (StateM FileTree) Committed).run t = (.error e, t'))
    (hstaged : t.kind? p = some .file →
      ∃ w s b bytes, Places t₀ p w s b ∧ t.find? s = some (.file bytes)) : t' = t := by
  rw [commit, run_liftM_bind_eq_error_iff] at h
  replace h : (do
      if decide (t.kind? p = some .file) then FileAccess.move p (backup p)
      tryCatch (FileAccess.move (staging p) p) fun e => do
        if decide (t.kind? p = some .file) then
          attempt (m := StateM FileTree) (FileAccess.move (backup p) p)
        throw e
      return ⟨p, decide (t.kind? p = some .file)⟩ :
        ExceptT OsError (StateM FileTree) Committed).run t = (.error e, t') := h
  by_cases hfile : t.kind? p = some .file
  · simp only [hfile, decide_true, if_true] at h
    obtain haside | ⟨_, t₁, haside, h⟩ := run_bind_eq_error_iff.mp h
    · exact (run_change_eq_error_iff.mp haside).2.symm
    · exfalso
      obtain h | ⟨_, _, -, h⟩ := run_bind_eq_error_iff.mp h
      · obtain ⟨e₁, m, hmove, -⟩ := run_tryCatch_eq_error_iff.mp h
        obtain ⟨hmove, -⟩ := run_change_eq_error_iff.mp hmove
        obtain ⟨w, s, b, bytes, hp, hbytes⟩ := hstaged hfile
        obtain ⟨ht₁, -, old, -, -, hupdate⟩ := ht.move (run_change_eq_ok_iff.mp haside) hp.file
          hp.aside (hp.ne_link w (.inl rfl)) (hp.ne_link b (.inr (.inr rfl)))
        have hbytes₁ : t₁.find? s = some (.file bytes) := by
          rw [hupdate, Function.update_of_ne hp.staged_ne_aside,
            Function.update_of_ne hp.file_ne_staged.symm, hbytes]
        have hnone : t₁.find? w = none := by
          rw [hupdate, Function.update_of_ne hp.file_ne_aside, Function.update_self]
        obtain ⟨t₂, hmoved⟩ := exists_move_of_places (ht₁.place? hp.staged) (ht₁.place? hp.file)
          hbytes₁ nofun (by simp [hnone])
        rw [hmoved] at hmove
        cases hmove
      · exact run_pure_ne_error h
  · simp only [hfile, decide_false, Bool.false_eq_true, if_false] at h
    obtain h | ⟨_, _, -, h⟩ := run_bind_eq_error_iff.mp h
    · obtain ⟨e₁, m, hmove, hthrow⟩ := run_tryCatch_eq_error_iff.mp h
      obtain ⟨-, rfl⟩ := run_change_eq_error_iff.mp hmove
      exact (run_throw_eq_error_iff.mp hthrow).2.symm
    · exact absurd h run_pure_ne_error

/-- **What is put back** by `undone`. Nothing is different from before, but that the source is no
longer where it was written first, and that nothing is where an earlier file was kept, or at the
file if there was no earlier one. -/
theorem find?_undone {replaced : Bool} (h : Placed p t replaced t') (ht : t₀.Under t)
    (hp : Places t₀ p w s b) :
    t₀.Under (undone t' ⟨p, replaced⟩) ∧
      (undone t' ⟨p, replaced⟩).find? =
        Function.update (Function.update t.find? s none) (if replaced then b else w) none := by
  obtain ⟨ht', hex⟩ := h.exchanged ht hp
  obtain ⟨e, he, hne⟩ := hex.source
  cases replaced with
  | false =>
    refine ⟨ht'.withoutFile hp.file (hp.ne_link w (.inl rfl)), ?_⟩
    have hplace : t'.place? p = some w := ht'.place? hp.file
    show (t'.withoutFile p).find? = _
    obtain ⟨-, hdirectory⟩ | ⟨w', _, hw', -, -, -, hupdate⟩ := t'.withoutFile_cases p
    · exact absurd (hdirectory w e hplace (hex.placed.trans he)) hne
    · obtain rfl : w = w' := Option.some.inj (hplace.symm.trans hw')
      rw [hupdate]
      funext x
      by_cases hxw : x = w
      · simp [hxw]
      by_cases hxs : x = s
      · simp [hxs, hp.file_ne_staged.symm, hex.staged]
      by_cases hxb : x = b
      · simpa [hxb, hp.file_ne_aside.symm, hp.staged_ne_aside.symm] using hex.aside
      · simpa [hxw, hxs] using hex.other x hxw hxs hxb
  | true =>
    obtain ⟨old, hold, hne'⟩ := hex.earlier rfl
    have haside : t'.find? b = some old := hex.aside.trans hold
    obtain ⟨t'', hback⟩ := exists_move_of_places (ht'.place? hp.aside) (ht'.place? hp.file) haside
      hne' (by rw [hex.placed, he]; exact fun heq => hne (Option.some.inj heq))
    have hundone : undone t' ⟨p, true⟩ = t'' := by
      simp only [undone, if_true, hback]
    obtain ⟨ht'', -, old', hold', -, hupdate⟩ := ht'.move hback hp.aside hp.file
      (hp.ne_link b (.inr (.inr rfl))) (hp.ne_link w (.inl rfl))
    cases haside.symm.trans hold'
    rw [hundone]
    refine ⟨ht'', ?_⟩
    rw [hupdate]
    funext x
    by_cases hxw : x = w
    · simp [hxw, hp.file_ne_aside, hp.file_ne_staged, hold]
    by_cases hxb : x = b
    · simp [hxb, hp.file_ne_aside.symm]
    by_cases hxs : x = s
    · simp [hxs, hp.file_ne_staged.symm, hp.staged_ne_aside, hex.staged]
    · simpa [hxw, hxs, hxb] using hex.other x hxw hxs hxb

/-- A source that is put in its place and is taken out again changes no other file, if no file was
where an earlier one is kept. -/
private theorem file_undone_iff {replaced : Bool} (h : Placed p t replaced t') (ht : t₀.Under t)
    (hp : Places t₀ p w s b) {x : Way} {bytes : List UInt8} (hx : x ≠ s)
    (hfree : x = b → t.find? x ≠ some (.file bytes)) :
    (undone t' ⟨p, replaced⟩).find? x = some (.file bytes) ↔ t.find? x = some (.file bytes) := by
  obtain ⟨-, hex⟩ := h.exchanged ht hp
  rw [(find?_undone h ht hp).2]
  by_cases hxe : x = if replaced then b else w
  · rw [hxe, Function.update_self]
    refine iff_of_false nofun ?_
    cases replaced with
    | false => exact hex.fresh rfl bytes
    | true =>
      obtain rfl : x = b := hxe
      exact hfree rfl
  · rw [Function.update_of_ne hxe, Function.update_of_ne hx]

end Undone

/-! ## Failed writing -/

section Write

variable {out : FilePath} {n m : String} {e : OsError}

/-- If `out.join n` leads to a file, then `n` is a name, and the path stands for a place. -/
theorem exists_place_of_file (hn : isFileName n = true)
    (hfile : t.kind? (out.join n) = some .file) :
    IsName n ∧ ∃ w, t.place? (out.join n) = some w := by
  obtain ⟨d, s, slash, htarget⟩ := exists_target_of_kind? hfile
  have hname := isName_of_target hn htarget
  obtain ⟨-, cs, name, d', k, hsteps, hd, -⟩ := exists_enters_of_target htarget
  obtain ⟨htext, hslash⟩ := text_join out hname
  exact ⟨hname, d' ++ [name], place?_eq_some_iff.mpr
    ⟨d', name, target_false_eq_entry_iff.mpr ⟨htext, hslash, cs, k, hsteps, hd⟩, rfl⟩⟩

/-- No file is where the source of one of `files` is written first (`staging`) or an earlier one is
kept (`backup`). -/
def Unoccupied (t : FileTree) (files : List FilePath) : Prop :=
  ∀ p ∈ files, ¬ t.HasFile (staging p) ∧ ¬ t.HasFile (backup p)

/-- Sources that are `Staged` are removed again, at paths where there were neither links nor files:
no file has changed. -/
theorem Staged.extends_withoutFiles {files : List (FilePath × String)} {paths : List FilePath}
    (h : Staged t files t') (hfiles : ∀ file ∈ files, staging file.1 ∈ paths)
    (hlinks : ∀ q ∈ paths, ¬ t.HasLink q) (hfree : ∀ q ∈ paths, ¬ t.HasFile q) :
    t.Extends (t'.withoutFiles paths) := by
  have hlinkFree : ∀ file ∈ files, ¬ t.HasLink (staging file.1) := fun file hfile =>
    hlinks _ (hfiles file hfile)
  have hsame := h.sameWays hlinkFree
  refine ⟨keepsFiles_withoutFiles (fun q hq hlink => hlinks q hq (hlink.of_under hsame.2))
      (fun q _ => hsame.place? q) hfree fun x hx bytes => ?_,
    fun x hx => keepsDirectories_withoutFiles _ _ x (hsame.1.keepsDirectories x hx)⟩
  rw [h.find?_of_ne hlinkFree fun file hfile => hx _ (hfiles file hfile)]

/-- When `stageAll` fails, no file has changed. -/
theorem extends_of_run_stageAll_error {files : List (FilePath × String)}
    (h : (stageAll [] files : ExceptT OsError (StateM FileTree) Unit).run t = (.error e, t'))
    (hlinks : ∀ file ∈ files, ¬ t.HasLink (staging file.1))
    (hfree : ∀ file ∈ files, ¬ t.HasFile (staging file.1)) : t.Extends t' := by
  obtain ⟨done, p, source, rest, t₁, rfl, hstaged, rfl⟩ := abandoned_of_run h
  rw [List.nil_append]
  have hpaths : ∀ q ∈ (done.map Prod.fst ++ [p]).map staging,
      ∃ file ∈ done ++ (p, source) :: rest, q = staging file.1 := by
    intro q hq
    obtain ⟨p', hp', rfl⟩ := List.mem_map.mp hq
    obtain hp' | hp' := List.mem_append.mp hp'
    · obtain ⟨file, hfile, rfl⟩ := List.mem_map.mp hp'
      exact ⟨file, List.mem_append_left _ hfile, rfl⟩
    · obtain rfl := List.mem_singleton.mp hp'
      exact ⟨(p', source), by simp, rfl⟩
  refine hstaged.extends_withoutFiles (fun file hfile => ?_) (fun q hq => ?_) fun q hq => ?_
  · exact List.mem_map_of_mem (List.mem_append_left _ (List.mem_map_of_mem hfile))
  · obtain ⟨file, hfile, rfl⟩ := hpaths q hq
    exact hlinks file hfile
  · obtain ⟨file, hfile, rfl⟩ := hpaths q hq
    exact hfree file hfile

section Refused

variable {native managed : String} {t₁ t₂ t₃ : FileTree} {replaced : Bool}

/-- The native source has been `Placed` and has been taken out of its place again, and what has been
written is removed: no file has changed. -/
theorem extends_of_undone (hn : isFileName n = true)
    (hstaged : Staged t [(out.join n, native), (out.join m, managed)] t₁)
    (hlinks : Unlinked t [out.join n, out.join m])
    (hfree : Unoccupied t [out.join n, out.join m])
    (hplaced : Placed (out.join n) t₁ replaced t₂) :
    t.Extends ((undone t₂ ⟨out.join n, replaced⟩).withoutFiles
      ([out.join n, out.join m].map staging)) := by
  have hu := Unlinked.under t [out.join n, out.join m]
  have hsame := hstaged.sameWays hlinks.not_hasLink
  obtain ⟨sn, sm, hsn, hsm, hupdate⟩ := hstaged.exists_places
    (hlinks.staged _ (by simp)) (hlinks.staged _ (by simp))
  obtain ⟨hname, d, hd⟩ := hplaced.exists_leads hn hsame hlinks (by simp)
  have hp := hlinks.places (by simp) hname hd
  obtain ⟨hu', hundone⟩ := find?_undone hplaced (hu.trans hsame.1) hp
  cases hsn.symm.trans (hu.place? hp.staged)
  have hplaces : ∀ q ∈ [out.join n, out.join m].map staging, ∃ x, t.place? q = some x ∧
      (undone t₂ ⟨out.join n, replaced⟩).place? q = some x ∧
        (x = d ++ [stagingName n] ∨ x = sm) := by
    intro q hq
    obtain ⟨p, hmem, rfl⟩ := List.mem_map.mp hq
    have hsome : ∃ x, t.place? (staging p) = some x ∧ (x = d ++ [stagingName n] ∨ x = sm) := by
      obtain rfl | rfl : p = out.join n ∨ p = out.join m := by simpa using hmem
      · exact ⟨_, hsn, .inl rfl⟩
      · exact ⟨_, hsm, .inr rfl⟩
    obtain ⟨x, hx, hxs⟩ := hsome
    exact ⟨x, hx, hu'.place? ((hlinks.place? p hmem _ (by simp)).trans hx), hxs⟩
  refine ⟨keepsFiles_withoutFiles ?_ ?_ ?_ ?_, fun x hx => keepsDirectories_withoutFiles _ _ x
    (hu'.keepsDirectories x (keepsDirectories_withoutFiles _ _ x hx))⟩
  · -- Only files are where the sources have been written first.
    rintro q hq ⟨l, hl⟩
    obtain ⟨x, -, hx, hxs⟩ := hplaces q hq
    rw [there?_of_place? hx, hundone, hupdate] at hl
    obtain rfl | rfl := hxs <;> simp [Function.update_apply] at hl
  · intro q hq
    obtain ⟨x, hx, hx', -⟩ := hplaces q hq
    rw [hx, hx']
  · intro q hq
    obtain ⟨p, hmem, rfl⟩ := List.mem_map.mp hq
    exact (hfree p hmem).1
  · intro x hx bytes
    have hxn : x ≠ d ++ [stagingName n] := by
      rintro rfl
      exact hx _ (by simp) hsn
    have hxm : x ≠ sm := by
      rintro rfl
      exact hx _ (by simp) hsm
    have hother : t₁.find? x = t.find? x := by
      rw [hupdate, Function.update_of_ne hxm, Function.update_of_ne hxn]
    rw [file_undone_iff hplaced (hu.trans hsame.1) hp hxn, hother]
    rintro rfl hfile
    rw [hother] at hfile
    exact (hfree _ (by simp)).2 ⟨bytes, (there?_of_place? (hu.place? hp.aside)).trans hfile⟩

/-- A native source that cannot be put in its place leaves the tree as it is. -/
private theorem eq_of_run_commit_native_error (hn : isFileName n = true)
    (hstaged : Staged t [(out.join n, native), (out.join m, managed)] t₁)
    (hlinks : Unlinked t [out.join n, out.join m])
    (h : (commit (out.join n) : ExceptT OsError (StateM FileTree) Committed).run t₁ =
      (.error e, t₂)) : t₂ = t₁ := by
  have hu := Unlinked.under t [out.join n, out.join m]
  have hsame := hstaged.sameWays hlinks.not_hasLink
  refine eq_of_run_commit_error (hu.trans hsame.1) h fun hfile => ?_
  obtain ⟨hname, w, hplace⟩ := exists_place_of_file hn hfile
  rw [hsame.place?] at hplace
  obtain ⟨d, hd⟩ := hlinks.exists_leads (by simp) hname hplace
  have hp := hlinks.places (by simp) hname hd
  obtain ⟨sn, sm, hsn, -, hupdate⟩ := hstaged.exists_places
    (hlinks.staged _ (by simp)) (hlinks.staged _ (by simp))
  cases hsn.symm.trans (hu.place? hp.staged)
  have hthere : ∃ bytes, t₁.find? (d ++ [stagingName n]) = some (.file bytes) := by
    rw [hupdate]
    by_cases hx : d ++ [stagingName n] = sm <;> simp [hx]
  obtain ⟨bytes, hbytes⟩ := hthere
  exact ⟨_, _, _, bytes, hp, hbytes⟩

/-- A managed source that cannot be put in its place behind the native one leaves the tree as it is.
It is where it has been written, or the native source is there. -/
private theorem eq_of_run_commit_managed_error (hn : isFileName n = true)
    (hm : isFileName m = true) (hnm : n ≠ m)
    (hstaged : Staged t [(out.join n, native), (out.join m, managed)] t₁)
    (hlinks : Unlinked t [out.join n, out.join m]) (hplaced : Placed (out.join n) t₁ replaced t₂)
    (h : (commit (out.join m) : ExceptT OsError (StateM FileTree) Committed).run t₂ =
      (.error e, t₃)) : t₃ = t₂ := by
  have hu := Unlinked.under t [out.join n, out.join m]
  have hsame := hstaged.sameWays hlinks.not_hasLink
  obtain ⟨hname, d, hd⟩ := hplaced.exists_leads hn hsame hlinks (by simp)
  have hp := hlinks.places (by simp) hname hd
  obtain ⟨hu₂, hex⟩ := hplaced.exchanged (hu.trans hsame.1) hp
  refine eq_of_run_commit_error hu₂ h fun hfile => ?_
  obtain ⟨hname', -⟩ := exists_place_of_file hm hfile
  have hp' := hlinks.places (by simp) hname' hd
  obtain ⟨sn, sm, hsn, hsm, hupdate⟩ := hstaged.exists_places
    (hlinks.staged _ (by simp)) (hlinks.staged _ (by simp))
  cases hsm.symm.trans (hu.place? hp'.staged)
  cases hsn.symm.trans (hu.place? hp.staged)
  have hne : stagingName m ≠ stagingName n := fun heq => hnm (stagingName_injective heq).symm
  have hthere : ∃ bytes, t₂.find? (d ++ [stagingName m]) = some (.file bytes) := by
    by_cases hfile : stagingName m = n
    · refine ⟨Text.Utf8.encode native, ?_⟩
      rw [hfile, hex.placed, hupdate, Function.update_of_ne (by simpa using hne.symm),
        Function.update_self]
    · refine ⟨Text.Utf8.encode managed, ?_⟩
      rw [hex.other _ (by simpa using hfile) (by simpa using hne)
        (by simpa using stagingName_ne_backupName m n), hupdate, Function.update_self]
  obtain ⟨bytes, hbytes⟩ := hthere
  exact ⟨_, _, _, bytes, hp', hbytes⟩

/-- When `commitAll` fails, no file has changed. -/
theorem extends_of_run_commitAll_error
    (hn : isFileName n = true) (hm : isFileName m = true) (hnm : n ≠ m)
    (hstaged : Staged t [(out.join n, native), (out.join m, managed)] t₁)
    (hlinks : Unlinked t [out.join n, out.join m])
    (hfree : Unoccupied t [out.join n, out.join m])
    (h : (commitAll [out.join n, out.join m] [] [out.join n, out.join m] :
      ExceptT OsError (StateM FileTree) (List Committed)).run t₁ = (.error e, t')) :
    t.Extends t' := by
  obtain ⟨done, p, rest, placed, t₂, t₃, e₁, hpaths, hplaced, hcommit, hleft⟩ := halted_of_run h
  subst t'
  obtain _ | ⟨q, _ | ⟨q', done⟩⟩ := done
  · -- The native source could not be put in its place.
    cases hpaths
    cases hplaced
    obtain rfl := eq_of_run_commit_native_error hn hstaged hlinks hcommit
    refine hstaged.extends_withoutFiles (fun file hfile => ?_) (fun q hq => ?_) fun q hq => ?_
    · exact List.mem_map_of_mem (List.mem_map_of_mem (f := Prod.fst) hfile)
    · obtain ⟨p, hmem, rfl⟩ := List.mem_map.mp hq
      exact hlinks.staged p hmem
    · obtain ⟨p, hmem, rfl⟩ := List.mem_map.mp hq
      exact (hfree p hmem).1
  · -- The native source is in its place, and the managed one could not be put in its own.
    cases hpaths
    obtain _ | ⟨hplacedNative, hnil⟩ := hplaced
    cases hnil
    obtain rfl := eq_of_run_commit_managed_error hn hm hnm hstaged hlinks hplacedNative hcommit
    rw [List.nil_append, List.reverse_singleton, List.foldl_cons, List.foldl_nil]
    exact extends_of_undone hn hstaged hlinks hfree hplacedNative
  · cases done <;> cases hpaths

end Refused

end Write

/-! ## Failed generation -/

section Generate

variable {out : FilePath} {c : Config}

/-- If there is the directory `out`, then `made` is the tree itself. -/
theorem made_of_directory (h : t.kind? out = some .directory) : made t out = t := by
  have hmade : t.run (createDirectories out : ExceptT OsError (StateM FileTree) Unit) =
      (.ok (), t) := run_createDirectories_of_directory h
  rw [made, hmade]

/-- A `write` that fails changes no file. -/
theorem extends_of_run_write_error (b : Bindings) (hc : c.fault? = none)
    (hlinks : Unlinked (made t out) (c.files out))
    (hfree : Unoccupied (made t out) (c.files out)) {e : OsError}
    (h : t.run (b.write out c) = (.error e, t')) : t.Extends t' := by
  obtain ⟨hnative, hmanaged, hne⟩ := names_of_fault?_eq_none hc
  have hmade : t.Extends (made t out) := keeps_createDirectories out t
  obtain hcreate | ⟨_, t₁, hcreate, h⟩ := run_bind_eq_error_iff.mp h
  · obtain rfl : made t out = t' := congrArg Prod.snd hcreate
    exact hmade
  obtain rfl : made t out = t₁ := congrArg Prod.snd hcreate
  refine hmade.trans ?_
  obtain hstage | ⟨_, t₂, hstage, h⟩ := run_bind_eq_error_iff.mp h
  · exact extends_of_run_stageAll_error hstage hlinks.not_hasLink
      fun file hfile => (hfree file.1 (List.mem_map_of_mem (f := Prod.fst) hfile)).1
  obtain hcommit | ⟨committed, t₃, -, h⟩ := run_bind_eq_error_iff.mp h
  · exact extends_of_run_commitAll_error hnative hmanaged hne (staged_of_run hstage) hlinks hfree
      hcommit
  · rw [run_liftM_bind_eq_error_iff] at h
    exact absurd h run_pure_ne_error

/-- **A `generate` that fails changes no file**, whatever it is that fails. All files are there with
their bytes and there are no others; only directories may have been made. What is in the way is
looked for once the directory `out` is there, as a path through what is missing leads nowhere. -/
theorem keepsFiles_of_run_generate_error (ds : List Declaration) (c : Config) (out : FilePath)
    (t : FileTree) (hlinks : Unlinked (made t out) (c.files out))
    (hfree : Unoccupied (made t out) (c.files out)) {e : GenerateError} {t' : FileTree}
    (h : t.run (generate ds c out) = (.error e, t')) :
    t.KeepsFiles t' ∧ t.KeepsDirectories t' := by
  have hextends : t.Extends t' := by
    unfold generate at h
    cases hschema : c.schema ds with
    | error why =>
      rw [hschema] at h
      obtain ⟨-, rfl⟩ := run_throw_eq_error_iff.mp h
      exact .refl t
    | ok s =>
      rw [hschema] at h
      obtain ⟨e₁, hwrite, -⟩ := run_adapt_eq_error_iff.mp h
      exact extends_of_run_write_error _ (Config.schema_eq_ok_iff.mp hschema).1 hlinks hfree hwrite
  exact hextends

/-- Files with short names. -/
def plain : Config := { nativeFile := "n", managedFile := "m" }

/-- A tree with an earlier native file, which is reached through a symbolic link, and a directory
where the managed file goes. -/
def blocked : FileTree where
  entries := [(["work", "out"], .directory), (["work", "out", "n"], .link ⟨"../old"⟩),
    (["work", "old"], .file [0]), (["work", "out", "m"], .directory)]

/-- In `blocked` both sources are written and the native one is in its place when `generate` fails.
-/
theorem keepsFiles_of_run_generate_error_blocked :
    let outcome := blocked.run (generate resetting plain Bindings.out)
    Unlinked (made blocked Bindings.out) (plain.files Bindings.out) ∧
      Unoccupied (made blocked Bindings.out) (plain.files Bindings.out) ∧
      (∃ e, outcome.1 = .error e) ∧
      blocked.KeepsFiles outcome.2 ∧ blocked.KeepsDirectories outcome.2 := by
  have hmade : made blocked Bindings.out = blocked := made_of_directory (by decide +kernel)
  have hlinks : Unlinked (made blocked Bindings.out) (plain.files Bindings.out) := by
    rw [hmade]
    exact ⟨by decide +kernel, by decide +kernel⟩
  have hfree : Unoccupied (made blocked Bindings.out) (plain.files Bindings.out) := by
    rw [hmade]
    unfold Unoccupied
    decide +kernel
  have hfails : (blocked.run (generate resetting plain Bindings.out)).1.toOption = none := by
    decide +kernel
  generalize houtcome : blocked.run (generate resetting plain Bindings.out) = outcome at hfails ⊢
  obtain ⟨r, t'⟩ := outcome
  cases r with
  | error e =>
    exact ⟨hlinks, hfree, ⟨e, rfl⟩,
      keepsFiles_of_run_generate_error resetting plain Bindings.out blocked hlinks hfree houtcome⟩
  | ok paths => cases hfails

/-- An `action` that fails does change the files if there is one at `w` afterwards and there was
none, or the other way round. -/
private theorem not_keepsFiles_of_ne {ε α : Type} {action : ExceptT ε (StateM FileTree) α} (w : Way)
    (h : (t.run action).1.toOption = none ∧
      ((t.run action).2.find? w).any FileEntry.isFile ≠ (t.find? w).any FileEntry.isFile) :
    (∃ e, (t.run action).1 = .error e) ∧ ¬ t.KeepsFiles (t.run action).2 := by
  obtain ⟨hfails, hne⟩ := h
  refine ⟨?_, fun hkeeps => hne (Bool.eq_iff_iff.mpr ?_)⟩
  · cases houtcome : (t.run action).1 with
    | error e => exact ⟨e, rfl⟩
    | ok a =>
      rw [houtcome] at hfails
      cases hfails
  · rw [FileEntry.any_isFile_iff, FileEntry.any_isFile_iff]
    exact exists_congr fun bytes => hkeeps w bytes

/-- A tree with a symbolic link that leads nowhere where the native source is written first, and a
directory where the managed file goes. -/
def dangling : FileTree where
  entries := [(["work", "out"], .directory), (["work", "out", "n.crossbind-tmp"], .link ⟨"x"⟩),
    (["work", "out", "m"], .directory)]

/-- A tree where the way to the directory for the files is a symbolic link in that directory, at the
place of the native file. -/
def circular : FileTree where
  entries := [(["work", "out"], .directory), (["work", "out", "n"], .link ⟨"."⟩)]

/-- A tree with a file where the native source is written first, and a directory where the managed
file goes. The path `x/../y` does not lead there before there is a directory `x`. -/
def hidden : FileTree where
  entries := [(["work", "y"], .directory), (["work", "y", "n.crossbind-tmp"], .file [0]),
    (["work", "y", "m"], .directory)]

/-- **Where a path comes to lead elsewhere**, a `generate` that fails may change files. In
`dangling` a link at the first name of a source makes the source a file elsewhere, and only the link
is removed. In `circular` the native file takes the place of a link through which the directory is
reached, and then nothing of what has been written is found again. In `hidden` the first name of a
source leads to a file as soon as the directory has been made. -/
theorem not_keepsFiles_elsewhere :
    (Unoccupied dangling (plain.files Bindings.out) ∧
      (∃ e, (dangling.run (generate resetting plain Bindings.out)).1 = .error e) ∧
      ¬ dangling.KeepsFiles (dangling.run (generate resetting plain Bindings.out)).2) ∧
    (Unoccupied circular (plain.files ⟨"out/n"⟩) ∧
      (∃ e, (circular.run (generate resetting plain ⟨"out/n"⟩)).1 = .error e) ∧
      ¬ circular.KeepsFiles (circular.run (generate resetting plain ⟨"out/n"⟩)).2) ∧
    (Unoccupied hidden (plain.files ⟨"x/../y"⟩) ∧
      (∃ e, (hidden.run (generate resetting plain ⟨"x/../y"⟩)).1 = .error e) ∧
      ¬ hidden.KeepsFiles (hidden.run (generate resetting plain ⟨"x/../y"⟩)).2) := by
  have hdangling : Unoccupied dangling (plain.files Bindings.out) := by
    unfold Unoccupied
    decide +kernel
  have hcircular : Unoccupied circular (plain.files ⟨"out/n"⟩) := by
    unfold Unoccupied
    decide +kernel
  have hhidden : Unoccupied hidden (plain.files ⟨"x/../y"⟩) := by
    unfold Unoccupied
    decide +kernel
  refine ⟨⟨hdangling, ?_⟩, ⟨hcircular, ?_⟩, hhidden, ?_⟩
  · exact not_keepsFiles_of_ne ["work", "out", "x"] (by decide +kernel)
  · exact not_keepsFiles_of_ne ["work", "out", "m.crossbind-tmp"] (by decide +kernel)
  · exact not_keepsFiles_of_ne ["work", "y", "n.crossbind-tmp"] (by decide +kernel)

end Generate

end Bindings

end Boundary
