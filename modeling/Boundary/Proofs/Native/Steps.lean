import Boundary.Proofs.Native.Machine
import Boundary.Proofs.Schema.Mirror

/-!
# Steps of calls

Before a function is called its arguments are lifted: first those that take nothing away, then the
parameters and the receiver that are moved out of their tables.

* `ExportedFunction.consumed`: the handles that a call of a function moves out of the tables.
* `ExportedFunction.Liftable`: the other arguments can be lifted.
* `runSteps_reads`, `runSteps_takes`: steps of either kind.
* `runSteps_callSteps`: the steps of a call.
-/

namespace Boundary

open Native Fallible

/-! ## What a call consumes -/

/-- The handle that the parameter `p` moves out of its table, passed `v`. -/
def Param.consumed? (p : Param) (v : FlatValue) : Option (TypeId × Handle) :=
  match p.mode, p.type, v with
  | .transfer, .handle id, .handle h => some (id, h)
  | _, _, _ => none

/-- The handle that the receiver `r` moves out of its table, passed `v`. -/
def Receiver.consumed? (r : Receiver) (v : FlatValue) : Option (TypeId × Handle) :=
  match r, v with
  | .byValue id, .handle h => .some (id, h)
  | _, _ => .none

/-- The argument of `f` for the receiver, which comes first in `args` if there is one. -/
def ExportedFunction.receiverArg (f : ExportedFunction) (args : List FlatValue) : FlatValue :=
  if f.receiver = .none then .void else args.headD .void

/-- The arguments of `f` for its parameters. -/
def ExportedFunction.paramArgs (f : ExportedFunction) (args : List FlatValue) : List FlatValue :=
  if f.receiver = .none then args else args.tail

/-- The handles that a call of `f` with `args` moves out of the tables. -/
def ExportedFunction.consumed (f : ExportedFunction) (args : List FlatValue) :
    List (TypeId × Handle) :=
  f.params.zipIdx.filterMap (fun (p, i) => p.consumed? ((f.paramArgs args).getD i .void)) ++
    (f.receiver.consumed? (f.receiverArg args)).toList

/-- The arguments of `f` that are not moved out of a table can be lifted from `ts`. -/
structure ExportedFunction.Liftable (ts : Tables) (f : ExportedFunction) (args : List FlatValue) :
    Prop where
  receiver : ∀ id h, f.receiver = .byRef id → f.receiverArg args = .handle h → ts.Live (id, h)
  params : ∀ p i, f.params[i]? = some p → p.mode ≠ .transfer →
    (Lift.of p.mode p.type).Fits ts ((f.paramArgs args).getD i .void)

namespace Native

variable {ts : Tables} {handle : FlatValue} {args : List FlatValue}

/-! ## Steps one after the other -/

private theorem runSteps_append (handle : FlatValue) (args : List FlatValue) (f : Frame)
    (front back : List Step) :
    runSteps handle args f (front ++ back) =
      runSteps handle args f front >>= fun f => runSteps handle args f back := by
  induction front generalizing f with
  | nil =>
    rw [List.nil_append, runSteps, pure_bind]
  | cons s rest ih =>
    simp only [List.cons_append, runSteps, bind_assoc, ih]

/-- The step leaves the tables alone. -/
def Step.IsGentle : Step → Prop
  | .receive access _ => access = .lend
  | .lift _ _ l => l.IsGentle

/-- What the step is for can be lifted from `ts`. -/
def Step.Fits (ts : Tables) (handle : FlatValue) (args : List FlatValue) : Step → Prop
  | .receive _ id => ∀ h, handle = .handle h → ts.Live (id, h)
  | .lift place _ l => l.Fits ts (args.getD place .void)

theorem Step.reads {s : Step} (hs : s.IsGentle) (f : Frame) :
    Machine.Reads ts (s.Fits ts handle args) ((s.run handle args f).run ts) := by
  cases s with
  | receive access id =>
    obtain rfl : access = .lend := hs
    cases handle with
    | handle h =>
      refine ((reads_lookup id h).map fun v => { f with receiver := v }).congr ?_
      simp [Step.Fits]
    | _ => exact (Machine.Reads.pure f).congr (by simp [Step.Fits])
  | lift place name l => exact (l.reads hs _).map _

/-- Steps that leave the tables alone succeed if all of them do. -/
theorem runSteps_reads {steps : List Step} (h : ∀ s ∈ steps, s.IsGentle) (f : Frame) :
    Machine.Reads ts (∀ s ∈ steps, s.Fits ts handle args)
      ((runSteps handle args f steps).run ts) := by
  induction steps generalizing f with
  | nil => exact (Machine.Reads.pure f).congr (by simp)
  | cons s rest ih =>
    rw [List.forall_mem_cons] at h
    exact ((Step.reads h.1 f).bind fun f => ih h.2 f).congr List.forall_mem_cons.symm

/-- The step moves something out of a table. -/
def Step.IsTaking : Step → Prop
  | .receive access _ => access = .take
  | .lift _ _ l => ∃ id, l = .take id

/-- The handle that a step moves out of its table. -/
def Step.consumed? (handle : FlatValue) (args : List FlatValue) :
    Step → Option (TypeId × Handle)
  | .receive .take id =>
    match handle with
    | .handle h => some (id, h)
    | _ => none
  | .lift place _ (.take id) =>
    match args.getD place .void with
    | .handle h => some (id, h)
    | _ => none
  | _ => none

theorem Step.takes {s : Step} (hs : s.IsTaking) (f : Frame) :
    Machine.Takes ts (s.consumed? handle args).toList ((s.run handle args f).run ts) := by
  cases s with
  | receive access id =>
    obtain rfl : access = .take := hs
    cases handle with
    | handle h => exact (takes_moveOut id h).bind fun v => .pure _
    | _ => exact .pure f
  | lift place name l =>
    obtain ⟨id, rfl⟩ := hs
    simp only [Step.run, Step.consumed?]
    generalize args.getD place .void = v
    cases v with
    | handle h => exact (takes_moveOut id h).bind fun v => .pure _
    | _ => exact (Machine.Takes.pure _).bind fun v => .pure _

/-- Steps that move something out of a table do so one after the other. -/
theorem runSteps_takes {steps : List Step} (h : ∀ s ∈ steps, s.IsTaking) (f : Frame) :
    Machine.Takes ts (steps.filterMap (Step.consumed? handle args))
      ((runSteps handle args f steps).run ts) := by
  induction steps generalizing f ts with
  | nil => exact .pure f
  | cons s rest ih =>
    rw [List.forall_mem_cons] at h
    have hcons : (s :: rest).filterMap (Step.consumed? handle args) =
        (s.consumed? handle args).toList ++ rest.filterMap (Step.consumed? handle args) := by
      rw [List.filterMap_cons]
      cases s.consumed? handle args <;> rfl
    rw [hcons]
    exact (Step.takes h.1 f).bind fun f => ih h.2 f

/-! ## The steps of a call -/

variable {f : ExportedFunction}

theorem mem_gentleSteps_iff {s : Step} :
    s ∈ gentleSteps f.params ↔ ∃ (p : Param) (i : Nat), f.params[i]? = some p ∧
      p.mode ≠ .transfer ∧ needsLift p.type = true ∧
        s = .lift i p.name (Lift.of p.mode p.type) := by
  simp only [gentleSteps, List.mem_filterMap, Prod.exists, List.mk_mem_zipIdx_iff_getElem?]
  refine exists_congr fun p => exists_congr fun i => and_congr_right fun _ => ?_
  by_cases hmode : p.mode = .transfer
  · simp [hmode]
  · by_cases hlift : needsLift p.type = true
    · simp [hmode, hlift, eq_comm]
    · simp [hmode, hlift]

theorem mem_consumingSteps_iff {s : Step} :
    s ∈ consumingSteps f.params ↔ ∃ (p : Param) (i : Nat), f.params[i]? = some p ∧
      p.mode = .transfer ∧ s = .lift i p.name (Lift.of p.mode p.type) := by
  simp only [consumingSteps, List.mem_filterMap, Prod.exists, List.mk_mem_zipIdx_iff_getElem?]
  refine exists_congr fun p => exists_congr fun i => and_congr_right fun _ => ?_
  by_cases hmode : p.mode = .transfer
  · simp [hmode, eq_comm]
  · simp [hmode]

theorem mem_receiverSteps_iff {access : Access} {s : Step} :
    s ∈ receiverSteps access f.receiver ↔
      ∃ id, receiverAccess? f.receiver = some (access, id) ∧ s = .receive access id := by
  unfold receiverSteps
  cases receiverAccess? f.receiver with
  | none => simp
  | some r =>
    obtain ⟨a, id⟩ := r
    by_cases ha : a = access
    · simp [ha]
    · simp [ha]

/-- The first steps of a call leave the tables alone. -/
theorem isGentle_of_mem {s : Step}
    (hs : s ∈ receiverSteps .lend f.receiver ++ gentleSteps f.params) : s.IsGentle := by
  obtain hs | hs := List.mem_append.mp hs
  · obtain ⟨id, -, rfl⟩ := mem_receiverSteps_iff.mp hs
    rfl
  · obtain ⟨p, i, -, hmode, -, rfl⟩ := mem_gentleSteps_iff.mp hs
    exact Lift.isGentle_of hmode p.type

/-- The first steps of a call succeed if the arguments that are not consumed can be lifted. -/
theorem forall_fits_iff :
    (∀ s ∈ receiverSteps .lend f.receiver ++ gentleSteps f.params,
        s.Fits ts (f.receiverArg args) (f.paramArgs args)) ↔ f.Liftable ts args := by
  constructor
  · intro h
    refine ⟨?_, ?_⟩
    · intro id hd hr harg
      have hmem : Step.receive .lend id ∈ receiverSteps .lend f.receiver :=
        mem_receiverSteps_iff.mpr ⟨id, by rw [hr]; rfl, rfl⟩
      exact h _ (List.mem_append_left _ hmem) hd harg
    · intro p i hp hmode
      by_cases hlift : needsLift p.type = true
      · exact h _ (List.mem_append_right _
          (mem_gentleSteps_iff.mpr ⟨p, i, hp, hmode, hlift, rfl⟩))
      · exact Lift.fits_of_needsLift_eq_false (eq_false_of_ne_true hlift) _
  · rintro ⟨hreceiver, hparams⟩ s hs
    obtain hs | hs := List.mem_append.mp hs
    · obtain ⟨id, hr, rfl⟩ := mem_receiverSteps_iff.mp hs
      intro hd harg
      refine hreceiver id hd ?_ harg
      cases hreceiver : f.receiver <;> simp_all [receiverAccess?]
    · obtain ⟨p, i, hp, hmode, -, rfl⟩ := mem_gentleSteps_iff.mp hs
      exact hparams p i hp hmode

/-- The last steps of a call move something out of a table. -/
theorem isTaking_of_mem
    (hf : ∀ p ∈ f.params, p.mode = .transfer → ∃ id, p.type = .handle id) {s : Step}
    (hs : s ∈ consumingSteps f.params ++ receiverSteps .take f.receiver) : s.IsTaking := by
  obtain hs | hs := List.mem_append.mp hs
  · obtain ⟨p, i, hp, hmode, rfl⟩ := mem_consumingSteps_iff.mp hs
    obtain ⟨id, htype⟩ := hf p (List.mem_of_getElem? hp) hmode
    exact ⟨id, by rw [hmode, htype]; rfl⟩
  · obtain ⟨id, -, rfl⟩ := mem_receiverSteps_iff.mp hs
    rfl

/-- The last steps of a call take what it consumes. -/
theorem filterMap_consumed? (hf : ∀ p ∈ f.params, p.mode = .transfer → ∃ id, p.type = .handle id) :
    (consumingSteps f.params ++ receiverSteps .take f.receiver).filterMap
      (Step.consumed? (f.receiverArg args) (f.paramArgs args)) = f.consumed args := by
  rw [List.filterMap_append, ExportedFunction.consumed, consumingSteps, List.filterMap_filterMap]
  congr 1
  · refine List.filterMap_congr ?_
    rintro ⟨p, i⟩ hp
    by_cases hmode : p.mode = .transfer
    · obtain ⟨id, htype⟩ := hf p (List.fst_mem_of_mem_zipIdx hp) hmode
      simp only [hmode, htype, if_true, Option.bind_some, Lift.of, Step.consumed?, Param.consumed?]
      generalize (f.paramArgs args).getD i .void = v
      cases v <;> rfl
    · simp only [if_neg hmode, Option.bind_none, Param.consumed?]
      split
      · exact absurd ‹_› hmode
      · rfl
  · generalize f.receiverArg args = v
    cases f.receiver with
    | none | byRef id => rfl
    | byValue id => cases v <;> rfl

/-- `callSteps` leave the tables alone if an argument cannot be lifted. Otherwise they take what the
call consumes. -/
theorem runSteps_callSteps
    (hf : ∀ p ∈ f.params, p.mode = .transfer → ∃ id, p.type = .handle id) (frame : Frame)
    (args : List FlatValue) (ts : Tables) :
    ¬ f.Liftable ts args ∧ (∃ trap : Trap, trap.code = .contract ∧
        (runSteps (f.receiverArg args) (f.paramArgs args) frame (callSteps f)).run ts =
          (.error trap, ts)) ∨
      f.Liftable ts args ∧ Machine.Takes ts (f.consumed args)
        ((runSteps (f.receiverArg args) (f.paramArgs args) frame (callSteps f)).run ts) := by
  have hreads : Machine.Reads ts _ ((runSteps (f.receiverArg args) (f.paramArgs args) frame
      (receiverSteps .lend f.receiver ++ gentleSteps f.params)).run ts) :=
    runSteps_reads (fun _ => isGentle_of_mem) frame
  rw [callSteps, List.append_assoc, runSteps_append, run_bind]
  generalize (runSteps (f.receiverArg args) (f.paramArgs args) frame
    (receiverSteps .lend f.receiver ++ gentleSteps f.params)).run ts = r at hreads
  cases hreads with
  | ok frame hfits =>
    refine .inr ⟨forall_fits_iff.mp hfits, ?_⟩
    rw [← filterMap_consumed? hf]
    exact runSteps_takes (fun s => isTaking_of_mem hf) frame
  | error trap hcode hfits =>
    exact .inl ⟨fun h => hfits (forall_fits_iff.mpr h), trap, hcode, rfl⟩

end Native

end Boundary
