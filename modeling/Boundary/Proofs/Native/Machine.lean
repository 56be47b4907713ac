import Boundary.Proofs.Native.Tables

/-!
# Computations that read and take

Computations by what they read from the tables and take out of them, and the lifts of arguments
among them.

* `Machine.Reads`: a computation that leaves the tables alone and succeeds on a condition.
* `Machine.Takes`: a computation that takes handles one after the other, as far as they are live.
* `Lift.reads`, `takes_moveOut`: the lifts.
-/

namespace Boundary.Native

open Fallible

variable {α β : Type} {ts : Tables}

/-! ## Reading -/

/-- The end of a computation that leaves the tables alone: it succeeds on the condition, and
otherwise the contract of the boundary is broken. -/
inductive Machine.Reads (ts : Tables) (condition : Prop) : Except Trap α × Tables → Prop
  | ok (a : α) (h : condition) : Reads ts condition (.ok a, ts)
  | error (trap : Trap) (hcode : trap.code = .contract) (h : ¬ condition) :
    Reads ts condition (.error trap, ts)

theorem Machine.Reads.pure (a : α) : Reads ts True ((Pure.pure a : Machine α).run ts) :=
  .ok a trivial

theorem Machine.Reads.bind {x : Machine α} {f : α → Machine β} {p q : Prop}
    (hx : Reads ts p (x.run ts)) (hf : ∀ a, Reads ts q ((f a).run ts)) :
    Reads ts (p ∧ q) ((x >>= f).run ts) := by
  rw [run_bind]
  generalize x.run ts = r at hx
  cases hx with
  | ok a hp =>
    have hfa := hf a
    dsimp only
    generalize (f a).run ts = r at hfa
    cases hfa with
    | ok b hq => exact .ok b ⟨hp, hq⟩
    | error trap hcode hq => exact .error trap hcode fun h => hq h.2
  | error trap hcode hp => exact .error trap hcode fun h => hp h.1

theorem Machine.Reads.congr {p q : Prop} {r : Except Trap α × Tables} (h : Reads ts p r)
    (hpq : p ↔ q) : Reads ts q r :=
  propext hpq ▸ h

theorem Machine.Reads.map {x : Machine α} {p : Prop} (f : α → β) (hx : Reads ts p (x.run ts)) :
    Reads ts p ((x >>= fun a => Pure.pure (f a)).run ts) :=
  (hx.bind fun a => .pure (f a)).congr (Iff.of_eq (and_true p))

private theorem run_lookup (id : TypeId) (h : Handle) :
    (lookup id h).run ts =
      match (ts id).get h with
      | .ok v => (.ok v, ts)
      | .error e => (.error (.error (.handle e)), ts) := by
  show ((Machine.ofExcept (((ts id).get h).mapError .handle) : Machine NativeValue)).run ts = _
  cases (ts id).get h <;> rfl

theorem reads_lookup (id : TypeId) (h : Handle) :
    Machine.Reads ts (ts.Live (id, h)) ((lookup id h).run ts) := by
  rw [run_lookup]
  unfold Tables.Live
  cases (ts id).get h with
  | ok v => exact .ok v ⟨v, rfl⟩
  | error e => exact .error _ rfl (by simp)

private theorem reads_viewText (bytes : Option (List UInt8)) :
    Machine.Reads ts (∃ s, readView bytes = .ok s) ((viewText bytes).run ts) := by
  have hrun : (viewText bytes).run ts =
      match readView bytes with
      | .ok s => (.ok (.text s), ts)
      | .error e => (.error (.error e), ts) := by
    unfold viewText
    cases readView bytes <;> rfl
  have herror {e : CallError} (he : readView bytes = .error e) :
      (Trap.error e).code = .contract := by
    unfold readView at he
    split at he
    · cases he
    · cases hd : Text.Utf8.decode _ with
      | ok s =>
        rw [hd] at he
        cases he
      | error fault =>
        rw [hd] at he
        cases he
        rfl
  rw [hrun]
  cases hview : readView bytes with
  | ok s => exact .ok _ ⟨s, rfl⟩
  | error e => exact .error _ (herror hview) (by simp)

/-! ## Lifts -/

/-- The lift leaves the tables alone. -/
def Lift.IsGentle : Lift → Prop
  | .take _ => False
  | .option inner => inner.IsGentle
  | _ => True

/-- The flat value can be lifted: a handle is live, and a text is one. -/
def Lift.Fits (ts : Tables) : Lift → FlatValue → Prop
  | .lentText, .view bytes | .ownText, .view bytes => ∃ s, readView bytes = .ok s
  | .lend id, .handle h | .copy id, .handle h => ts.Live (id, h)
  | .option inner, .option present value =>
    ∀ v, FlatValue.payload? present value = some v → inner.Fits ts v
  | _, _ => True

/-- A lift that leaves the tables alone succeeds for what can be lifted. -/
theorem Lift.reads {l : Lift} (hl : l.IsGentle) (v : FlatValue) :
    Machine.Reads ts (l.Fits ts v) ((l.run v).run ts) := by
  induction l generalizing v with
  | take id => exact hl.elim
  | option inner ih =>
    cases v with
    | option present value =>
      simp only [Lift.run, Lift.Fits]
      cases hpayload : FlatValue.payload? present value with
      | none => exact (Machine.Reads.pure _).congr (by simp)
      | some v => exact ((ih hl v).map _).congr (by simp)
    | _ => exact .pure _
  | same | bool => cases v <;> exact .pure _
  | lentText | ownText =>
    cases v with
    | view bytes => exact reads_viewText bytes
    | _ => exact .pure _
  | lend id | copy id =>
    cases v with
    | handle h => exact reads_lookup id h
    | _ => exact .pure _

/-- Only a transferred argument is moved out of its table. -/
theorem Lift.isGentle_of {mode : ParamMode} (hmode : mode ≠ .transfer) (t : TypeRef) :
    (Lift.of mode t).IsGentle := by
  induction t generalizing mode with
  | primitive p => cases p <;> trivial
  | str => cases mode <;> trivial
  | handle id =>
    cases mode with
    | transfer => exact absurd rfl hmode
    | _ => trivial
  | option inner ih => cases mode <;> exact ih (by decide)
  | _ => cases mode <;> trivial

/-- What needs no lift can be lifted. -/
theorem Lift.fits_of_needsLift_eq_false {mode : ParamMode} {t : TypeRef}
    (h : needsLift t = false) (v : FlatValue) : (Lift.of mode t).Fits ts v := by
  cases t with
  | primitive p =>
    cases p with
    | bool => cases h
    | _ => cases mode <;> trivial
  | _ => cases h

/-! ## Taking -/

/-- The end of a computation that takes handles one after the other. Where one of them is not live
any more, the contract of the boundary is broken, and the handles before it have been taken. -/
inductive Machine.Takes (ts : Tables) : List (TypeId × Handle) → Except Trap α × Tables → Prop
  | ok {cs : List (TypeId × Handle)} (a : α) (h : ts.Takable cs) :
    Takes ts cs (.ok a, ts.removeAll cs)
  | error {front back : List (TypeId × Handle)} {c : TypeId × Handle} (trap : Trap)
    (hcode : trap.code = .contract) (hfront : ts.Takable front)
    (hdead : ¬ (ts.removeAll front).Live c) :
    Takes ts (front ++ c :: back) (.error trap, ts.removeAll front)

theorem Machine.Takes.pure (a : α) : Takes ts [] ((Pure.pure a : Machine α).run ts) :=
  .ok a trivial

theorem Machine.Takes.bind {x : Machine α} {f : α → Machine β} {cs ds : List (TypeId × Handle)}
    (hx : Takes ts cs (x.run ts))
    (hf : ∀ a, Takes (ts.removeAll cs) ds ((f a).run (ts.removeAll cs))) :
    Takes ts (cs ++ ds) ((x >>= f).run ts) := by
  rw [run_bind]
  generalize x.run ts = r at hx
  cases hx with
  | ok a hcs =>
    have hfa := hf a
    dsimp only
    generalize (f a).run (ts.removeAll cs) = r at hfa
    cases hfa with
    | ok b hds =>
      rw [← Tables.removeAll_append]
      exact .ok b (Tables.takable_append.mpr ⟨hcs, hds⟩)
    | error trap hcode hfront hdead =>
      rw [← Tables.removeAll_append] at hdead ⊢
      rw [← List.append_assoc]
      exact .error trap hcode (Tables.takable_append.mpr ⟨hcs, hfront⟩) hdead
  | error trap hcode hfront hdead =>
    rw [List.append_assoc, List.cons_append]
    exact .error trap hcode hfront hdead

private theorem run_moveOut (id : TypeId) (h : Handle) :
    (moveOut id h).run ts =
      match (ts id).take h with
      | .ok (v, t) => (.ok v, ts.put id t)
      | .error e => (.error (.error (.handle e)), ts) := by
  show ((match (ts id).take h with
    | .ok (v, t) => _
    | .error e => _ : Machine NativeValue)).run ts = _
  cases (ts id).take h <;> rfl

theorem takes_moveOut (id : TypeId) (h : Handle) :
    Machine.Takes ts [(id, h)] ((moveOut id h).run ts) := by
  rw [run_moveOut]
  cases hget : (ts id).get h with
  | ok v =>
    rw [HandleTable.take_of_get_eq_ok hget]
    exact .ok v ⟨⟨v, hget⟩, trivial⟩
  | error e =>
    have hdead : ¬ ts.Live (id, h) := by
      rintro ⟨v, hv⟩
      exact absurd (hget.symm.trans hv) (by simp)
    rw [HandleTable.take_of_get_eq_error hget]
    show Machine.Takes ts ([] ++ (id, h) :: []) (_, ts.removeAll [])
    exact .error _ rfl trivial hdead

end Boundary.Native
