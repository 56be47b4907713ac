import Boundary.Proofs.EntryPoint
import Boundary.Proofs.Native.Handed
import Boundary.Proofs.Native.Steps
import Boundary.Proofs.Schema.Distinct

/-!
# Calls of functions

A call of an exported function is its steps, and then the answer that follows from the outcome of
the native function.

* `callCode`: the code in the status after a call.
* `TypeRef.handedBack?`: the handle that a call hands back.
* `Outcome.Fits`, `Outcome.Suits`: outcomes that can be answered.
* `answered`: the answer to an outcome.
* `run_callFunction`: a call is its steps, then the answer.
* `Accepted.call_functionEntry`: the calls of the functions of a schema.
-/

namespace Boundary

open Fallible Native

/-- The code in the status after a call. -/
def callCode {α : Type} (end_ : Except Trap α) : CallCode := (CallStatus.settle {} end_).code

/-- The handle that a call of a function with the given return type hands back: in its result or
in the serialized error. -/
def TypeRef.handedBack? : TypeRef → Except Trap FlatValue → Option (TypeId × Handle)
  | t, .ok v => t.handle? v
  | .result _ err, .error (.error (.native payload)) => err.payloadHandle? payload
  | _, .error _ => none

/-- The error of an outcome can be serialized. -/
def Native.Outcome.Fits (t : TypeRef) (o : Outcome) : Prop :=
  ∀ e ok err, o = .failure e → t = .result ok err → (ErrorWrite.of err).Fits e

/-- An outcome is a failure only where the return type allows for one. -/
def Native.Outcome.Suits (t : TypeRef) (o : Outcome) : Prop :=
  ∀ e, o = .failure e → ∃ ok err, t = .result ok err

namespace Native

variable {ts : Tables}

/-- What an answer does: it hands back what has been put in. Only an error that cannot be
serialized breaks the contract of the boundary. -/
def Answered (t : TypeRef) (o : Outcome) (ts : Tables) (r : Except Trap FlatValue × Tables) :
    Prop :=
  o.Fits t ∧ callCode r.1 ≠ .contract ∧
      (∃ c, ts.Stored c r.2 ∧ (o.Suits t → c = t.handedBack? r.1)) ∨
    ¬ o.Fits t ∧ callCode r.1 = .contract ∧ r.2 = ts

theorem Outcome.fits_of_ne_failure {t : TypeRef} {o : Outcome} (h : ∀ e, o ≠ .failure e) :
    o.Fits t :=
  fun e _ _ ho => absurd ho (h e)

theorem Outcome.fits_of_ne_result {t : TypeRef} {o : Outcome} (h : ∀ ok err, t ≠ .result ok err) :
    o.Fits t :=
  fun _ ok err _ ht => absurd ht (h ok err)

private theorem answered_abort (t : TypeRef) (message : Option String) :
    Answered t (.abort message) ts (((Answer.of t).run (.abort message)).run ts) := by
  have hrun : ((Answer.of t).run (.abort message)).run ts =
      (.error (.abort message), ts) := by
    cases t <;> rfl
  rw [hrun]
  refine .inl ⟨Outcome.fits_of_ne_failure nofun, nofun, none, .nothing, fun _ => ?_⟩
  cases t <;> rfl

private theorem answered_lowering {t u : TypeRef} {v : NativeValue} {o : Outcome} (ho : o.Fits t)
    (hu : ∀ r, t.handle? r = u.handle? r) :
    Answered t o ts (((Lowering.of u).run v).run ts) := by
  obtain ⟨r, ts', hrun, hstored⟩ := exists_run_lowering u v ts
  rw [hrun]
  refine .inl ⟨ho, nofun, _, hstored, fun _ => ?_⟩
  cases t <;> exact (hu r).symm

private theorem answered_void {t : TypeRef} {o : Outcome} (ho : o.Fits t)
    (ht : t.handle? .void = none) : Answered t o ts (.ok .void, ts) := by
  refine .inl ⟨ho, nofun, none, .nothing, fun _ => ?_⟩
  cases t <;> exact ht.symm

/-- An error that the return type does not allow for is answered by the default. -/
theorem answered_default {t : TypeRef} {e : NativeValue} (ht : ∀ ok err, t ≠ .result ok err)
    (v : FlatValue) : Answered t (.failure e) ts (.ok v, ts) := by
  refine .inl ⟨Outcome.fits_of_ne_result ht, nofun, none, .nothing, fun hsuits => ?_⟩
  obtain ⟨ok, err, rfl⟩ := hsuits e rfl
  exact absurd rfl (ht ok err)

private theorem answered_error (ok err : TypeRef) (e : NativeValue) (ts : Tables) :
    Answered (.result ok err) (.failure e) ts
      (((Answer.of (.result ok err)).run (.failure e)).run ts) := by
  have hfits : Outcome.Fits (.result ok err) (.failure e) ↔ (ErrorWrite.of err).Fits e := by
    constructor
    · intro h
      exact h e ok err rfl rfl
    · intro h e' ok' err' he ht
      cases he
      cases ht
      exact h
  by_cases herr : err = .unit
  · subst herr
    simp only [Answer.of, if_true, Answer.run]
    refine .inl ⟨hfits.mpr (by cases e <;> trivial), nofun, _, ts.stored_payload .unit ?_ [],
      fun _ => rfl⟩
    intro d
    cases d <;> rfl
  · simp only [Answer.of, if_neg herr, Answer.run, run_bind]
    obtain ⟨he, items, ts', hrun, hstored⟩ | ⟨he, trap, hcode, hrun⟩ :=
      run_errorWrite_cases err e ts
    · rw [hrun]
      exact .inl ⟨hfits.mpr he, nofun, _, hstored, fun _ => rfl⟩
    · rw [hrun]
      exact .inr ⟨fun h => he (hfits.mp h), hcode, rfl⟩

/-- **What follows from an outcome.** -/
theorem answered (t : TypeRef) (o : Outcome) (ts : Tables) :
    Answered t o ts (((Answer.of t).run o).run ts) := by
  cases o with
  | abort message => exact answered_abort t message
  | value v =>
    have hfits (t : TypeRef) : Outcome.Fits t (.value v) := Outcome.fits_of_ne_failure nofun
    cases t with
    | unit => exact answered_void (hfits _) rfl
    | result ok err =>
      by_cases hok : ok = .unit
      · subst hok
        exact answered_void (hfits _) rfl
      · simp only [Answer.of, if_neg hok]
        exact answered_lowering (hfits _) fun _ => rfl
    | _ => exact answered_lowering (hfits _) fun _ => rfl
  | failure e =>
    cases t with
    | result ok err => exact answered_error ok err e ts
    | _ => exact answered_default (fun _ _ h => TypeRef.noConfusion h) _

/-! ## Calls -/

/-- The values that a function is called with. -/
def Frame.values (f : ExportedFunction) (frame : Frame) : List NativeValue :=
  if f.receiver = .none then frame.params else frame.receiver :: frame.params

/-- A call of a function is its steps, then the answer. -/
theorem run_callFunction (library : Library) (args : List FlatValue) (owner : Option String)
    (f : ExportedFunction) :
    (callFunction owner f).run library args =
      runSteps (f.receiverArg args) (f.paramArgs args) (.initial (f.paramArgs args))
        (callSteps f) >>= fun frame =>
          (Answer.of f.returns).run (library owner f.name (frame.values f)) := by
  unfold Frame.values ExportedFunction.receiverArg ExportedFunction.paramArgs
  cases hr : f.receiver <;> simp [callFunction, Body.run, receiverAccess?, hr]

end Native

namespace Accepted

variable {facade : String} {ds : List Declaration} {s : Schema} {f : ExportedFunction}

/-- Only exported structs are given away. -/
theorem exists_handle_of_transfer (h : Accepted facade ds s) (hf : f ∈ s.functions) {p : Param}
    (hp : p ∈ f.params) (hmode : p.mode = .transfer) : ∃ id, p.type = .handle id := by
  rw [h.functions_eq] at hf
  obtain ⟨⟨id, d⟩, hd, rfl⟩ := List.mem_map.mp hf
  have husable := h.function_params (function_mem hd)
  rw [FunctionDecl.params_exported fun p hp => (husable p hp).1] at hp
  obtain ⟨q, hq, rfl⟩ := List.mem_map.mp hp
  obtain ⟨x, -, hx⟩ := (h.param_handedOver hd hq).transfer_type hmode
  exact ⟨x.id, hx⟩

theorem call_functionEntry (h : Accepted facade ds s) (hf : f ∈ s.functions) (library : Library)
    (start : String) (args : List FlatValue) (ts : Tables) :
    s.call library (s.functionEntry start f) args ts =
      ((callFunction (s.ownerName f) f).run library args).run ts := by
  rw [Schema.call, h.body?_function hf]

end Accepted

end Boundary
