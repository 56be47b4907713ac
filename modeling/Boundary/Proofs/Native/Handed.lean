import Boundary.Native.Machine
import Boundary.Proofs.Datum.RoundTrip
import Boundary.Proofs.Native.Tables

/-!
# Handles that are handed back

A result or the serialized error of a native function can hold a handle. It is then the handle of
the one value that has been put into a table, and otherwise none has been.

* `TypeRef.handle?`, `TypeRef.payloadHandle?`: the handle in a result, and in a serialized error.
* `exists_run_lowering`: a result is always handed back.
* `run_errorWrite_cases`: an error is handed back unless it is a text that is too long.
-/

namespace Boundary

open Fallible Native

/-- The handle in a flat value of a type on its way out. -/
def TypeRef.handle? : TypeRef → FlatValue → Option (TypeId × Handle)
  | .handle id, .handle h => some (id, h)
  | .option inner, .option present value =>
    (FlatValue.payload? present value).bind inner.handle?
  | .result ok _, v => ok.handle? v
  | _, _ => none

/-- The handle in a value of a boundary type. -/
def Datum.handle? : TypeRef → Datum → Option (TypeId × Handle)
  | .handle id, .handle h => some (id, h)
  | .option inner, .option (some d) => d.handle? inner
  | _, _ => none

/-- The handle in the serialized form of a value of a boundary type. -/
def TypeRef.payloadHandle? (t : TypeRef) (bytes : List UInt8) : Option (TypeId × Handle) :=
  (t.decode bytes).toOption.bind (Datum.handle? t)

theorem TypeRef.payloadHandle?_eq_some_iff {t : TypeRef} {bytes : List UInt8}
    {c : TypeId × Handle} :
    t.payloadHandle? bytes = some c ↔
      ∃ (d : Datum) (items : List Wire.Item), d.items t = .ok items ∧ Wire.write items = bytes ∧
        d.handle? t = some c := by
  have hdecode {d : Datum} : t.decode bytes = .ok d ↔
      ∃ items, d.items t = .ok items ∧ Wire.write items = bytes := by
    rw [TypeRef.decode_eq_ok_iff, Datum.encode, map_eq_ok_iff]
  unfold payloadHandle?
  cases hd : t.decode bytes with
  | ok d =>
    obtain ⟨items, hitems, hbytes⟩ := hdecode.mp hd
    constructor
    · intro h
      exact ⟨d, items, hitems, hbytes, h⟩
    · rintro ⟨d', items', hitems', hbytes', h⟩
      have hd' := hdecode.mpr ⟨items', hitems', hbytes'⟩
      rw [hd] at hd'
      cases hd'
      exact h
  | error e =>
    constructor
    · intro h
      cases h
    · rintro ⟨d', items', hitems', hbytes', -⟩
      have hd' := hdecode.mpr ⟨items', hitems', hbytes'⟩
      rw [hd] at hd'
      cases hd'

theorem TypeRef.payloadHandle?_handle (id : TypeId) (h : Handle) :
    (TypeRef.handle id).payloadHandle? (Wire.write [.handle h]) = some (id, h) :=
  payloadHandle?_eq_some_iff.mpr ⟨.handle h, [.handle h], rfl, rfl, rfl⟩

theorem TypeRef.payloadHandle?_present (inner : TypeRef) (items : List Wire.Item) :
    (TypeRef.option inner).payloadHandle? (Wire.write (.presence true :: items)) =
      inner.payloadHandle? (Wire.write items) := by
  ext c
  simp only [payloadHandle?_eq_some_iff]
  constructor
  · rintro ⟨d, items', hitems, hbytes, hd⟩
    obtain ⟨rfl, rfl⟩ | ⟨x, more, rfl, hmore, rfl⟩ := Datum.items_option_eq_ok_iff.mp hitems
    · cases hd
    · rw [Wire.write_cons, Wire.write_cons] at hbytes
      exact ⟨x, more, hmore, List.append_cancel_left hbytes, hd⟩
  · rintro ⟨x, more, hmore, hbytes, hd⟩
    refine ⟨.option (some x), _, Datum.items_option_eq_ok_iff.mpr (.inr ⟨x, more, rfl, hmore, rfl⟩),
      ?_, hd⟩
    rw [Wire.write_cons, Wire.write_cons, hbytes]

/-- An option holds a handle only behind the byte that announces it. -/
theorem TypeRef.payloadHandle?_option_eq_none (inner : TypeRef) {bytes : List UInt8}
    (h : bytes.head? ≠ some 1) : (TypeRef.option inner).payloadHandle? bytes = none := by
  refine Option.eq_none_iff_forall_ne_some.mpr ?_
  intro c hc
  obtain ⟨d, items, hitems, hbytes, hd⟩ := payloadHandle?_eq_some_iff.mp hc
  obtain ⟨rfl, rfl⟩ | ⟨x, more, rfl, -, rfl⟩ := Datum.items_option_eq_ok_iff.mp hitems
  · cases hd
  · refine h ?_
    rw [← hbytes]
    rfl

/-- Only a value of a type that holds a handle can have one. -/
theorem TypeRef.payloadHandle?_eq_none {t : TypeRef} (h : ∀ d : Datum, d.handle? t = none)
    (bytes : List UInt8) : t.payloadHandle? bytes = none := by
  unfold payloadHandle?
  cases t.decode bytes with
  | ok d => exact h d
  | error e => rfl

/-! ## Results -/

/-- A result is always handed back, with the handle of what has been put in. -/
theorem Native.exists_run_lowering (t : TypeRef) (v : NativeValue) (ts : Tables) :
    ∃ r ts', ((Lowering.of t).run v).run ts = (.ok r, ts') ∧ ts.Stored (t.handle? r) ts' := by
  induction t generalizing v with
  | handle id => exact ⟨_, _, rfl, .value id v⟩
  | option inner ih =>
    cases v with
    | option value =>
      cases value with
      | none => exact ⟨_, _, rfl, .nothing⟩
      | some v =>
        obtain ⟨r, ts', hrun, hstored⟩ := ih v
        refine ⟨.option 1 r, ts', ?_, hstored⟩
        simp only [Lowering.of, Lowering.run, run_bind, hrun]
        rfl
    | _ => exact ⟨_, _, rfl, .nothing⟩
  | result ok err ih => exact ih v
  | primitive p => cases p <;> cases v <;> exact ⟨_, _, rfl, .nothing⟩
  | str => cases v <;> exact ⟨_, _, rfl, .nothing⟩
  | _ => cases v <;> exact ⟨_, _, rfl, .nothing⟩

/-! ## Errors -/

/-- An error can be serialized: a text in it is not too long. -/
def Native.ErrorWrite.Fits : ErrorWrite → NativeValue → Prop
  | .text, .text s => s.utf8ByteSize < Wire.textLimit
  | .option inner, .option (some v) => inner.Fits v
  | _, _ => True

/-- Nothing is put in for a value of a type that holds no handle. -/
theorem Native.Tables.stored_payload (ts : Tables) (t : TypeRef)
    (h : ∀ d : Datum, d.handle? t = none)
    (bytes : List UInt8) : ts.Stored (t.payloadHandle? bytes) ts := by
  rw [t.payloadHandle?_eq_none h]
  exact .nothing

/-- An error is handed back, with the handle of what has been put in, if it can be serialized;
otherwise the contract of the boundary is broken. -/
theorem Native.run_errorWrite_cases (t : TypeRef) (e : NativeValue) (ts : Tables) :
    (ErrorWrite.of t).Fits e ∧ (∃ items ts', ((ErrorWrite.of t).run e).run ts = (.ok items, ts') ∧
        ts.Stored (t.payloadHandle? (Wire.write items)) ts') ∨
      ¬ (ErrorWrite.of t).Fits e ∧ ∃ trap : Trap, trap.code = .contract ∧
        ((ErrorWrite.of t).run e).run ts = (.error trap, ts) := by
  induction t generalizing e with
  | handle id =>
    refine .inl ⟨trivial, [.handle ((ts id).insert e).1], _, rfl, ?_⟩
    rw [TypeRef.payloadHandle?_handle]
    exact .value id e
  | option inner ih =>
    have hnothing (items : List Wire.Item) (h : (Wire.write items).head? ≠ some 1) :
        ts.Stored ((TypeRef.option inner).payloadHandle? (Wire.write items)) ts := by
      rw [TypeRef.payloadHandle?_option_eq_none inner h]
      exact .nothing
    cases e with
    | option value =>
      cases value with
      | none => exact .inl ⟨trivial, [.presence false], ts, rfl, hnothing _ (by decide)⟩
      | some v =>
        simp only [ErrorWrite.of, ErrorWrite.run, ErrorWrite.Fits, run_bind]
        obtain ⟨hfits, items, ts', hrun, hstored⟩ | ⟨hfits, trap, hcode, hrun⟩ := ih v
        · rw [hrun]
          refine .inl ⟨hfits, .presence true :: items, ts', rfl, ?_⟩
          rw [TypeRef.payloadHandle?_present]
          exact hstored
        · rw [hrun]
          exact .inr ⟨hfits, trap, hcode, rfl⟩
    | _ => exact .inl ⟨trivial, [], ts, rfl, hnothing _ (by decide)⟩
  | str =>
    have hstored := ts.stored_payload .str (fun d => by cases d <;> rfl)
    cases e with
    | text s =>
      simp only [ErrorWrite.of, ErrorWrite.run, ErrorWrite.Fits, Wire.Item.check]
      by_cases hs : s.utf8ByteSize < Wire.textLimit
      · rw [if_pos hs]
        exact .inl ⟨hs, [.str s], ts, rfl, hstored _⟩
      · rw [if_neg hs]
        exact .inr ⟨hs, .error (.wire (.textTooLong s.utf8ByteSize)), rfl, rfl⟩
    | _ => exact .inl ⟨trivial, [], ts, rfl, hstored _⟩
  | primitive p =>
    have hstored := ts.stored_payload (.primitive p) (fun d => by cases d <;> rfl)
    cases e <;> exact .inl ⟨trivial, _, ts, rfl, hstored _⟩
  | unit | result | unsupported =>
    cases e <;> exact .inl ⟨trivial, [], ts, rfl,
      ts.stored_payload _ (fun d => by cases d <;> rfl) _⟩

end Boundary
