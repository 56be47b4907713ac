import Boundary.FlatType
import Boundary.Resolution

/-!
# Between flat and native values

The conversions that the body of an entry point performs, as data: they are both written as native
source and carried out on values.

* `Lift`, `Lift.of`: how a flat argument becomes a native value.
* `Lowering`, `Lowering.of`: how a native value becomes a flat one.
* `ErrorWrite`, `ErrorWrite.of`: how the error of a native function is serialized.
* `Lift.expr`, `Lowering.expr`: the conversions as native expressions.
-/

namespace Boundary.Native

/-- How native source refers to the things it uses. -/
structure Spelling where
  /-- The handle table of a type. -/
  table : TypeId → String
  /-- A declared item at the top level. -/
  path : String → String

/-- How a flat argument becomes a native value. -/
inductive Lift
  /-- Numbers cross unchanged. -/
  | same
  | bool
  /-- Text is read from its view for the duration of the call. -/
  | lentText
  | ownText
  /-- The value behind a handle is shared. -/
  | lend (id : TypeId)
  /-- The value behind a handle is copied. -/
  | copy (id : TypeId)
  /-- The value behind a handle is moved out of its table. -/
  | take (id : TypeId)
  | option (inner : Lift)
deriving Repr, DecidableEq

/-- The lift of an argument of a `TypeRef`. What an option holds is always owned. -/
def Lift.of : ParamMode → TypeRef → Lift
  | _, .primitive .bool => .bool
  | .borrowed, .str => .lentText
  | _, .str => .ownText
  | .borrowed, .handle id => .lend id
  | .owned, .handle id => .copy id
  | .transfer, .handle id => .take id
  | _, .option inner => .option (Lift.of .owned inner)
  | _, _ => .same

/-- Whether an argument of the type has to be lifted; numbers need not. -/
def needsLift : TypeRef → Bool
  | .primitive .bool => true
  | .primitive _ => false
  | _ => true

/-- A variable bound at the given depth. -/
def boundName (depth : Nat) : String := s!"__v{depth}"

/-- The expression that lifts the variable `variable_`. -/
def Lift.expr (names : Spelling) (variable_ : String) (depth : Nat) : Lift → String
  | .same => variable_
  | .bool => s!"{variable_} != 0"
  | .lentText => s!"unsafe \x7b {variable_}.as_str() \x7d?"
  | .ownText => s!"unsafe \x7b {variable_}.as_str() \x7d?.to_owned()"
  | .lend id => s!"{names.table id}.get({variable_})?"
  | .copy id => s!"{names.table id}.get_cloned({variable_})?"
  | .take id => s!"{names.table id}.take({variable_})?"
  | .option inner =>
    let bound := boundName depth
    let lifted := inner.expr names bound (depth + 1)
    s!"match {variable_}.into_option() \x7b Some({bound}) => Some({lifted}), None => None \x7d"

/-- How a native value becomes a flat one. -/
inductive Lowering
  /-- Numbers cross unchanged. -/
  | same (type : FlatType)
  | bool
  | text
  /-- The value is put into its table. -/
  | insert (id : TypeId)
  | option (inner : Lowering)
deriving Repr, DecidableEq

/-- The lowering of a value of a `TypeRef`; of a result, that of its success. -/
def Lowering.of : TypeRef → Lowering
  | .primitive .bool => .bool
  | .primitive p => .same (.scalar p)
  | .str => .text
  | .handle id => .insert id
  | .option inner => .option (Lowering.of inner)
  | .result ok _ => Lowering.of ok
  | .unit | .unsupported _ => .same .void

/-- The flat type that a `Lowering` gives. -/
def Lowering.type : Lowering → FlatType
  | .same type => type
  | .bool => .scalar .u8
  | .text => .buffer
  | .insert _ => .handle
  | .option inner => .option inner.type

/-- The expression that lowers the expression `value`. -/
def Lowering.expr (names : Spelling) (value : String) (depth : Nat) : Lowering → String
  | .same _ => value
  | .bool => s!"u8::from({value})"
  | .text => s!"__rt::RustBuffer::from_string({value})"
  | .insert id => s!"{names.table id}.insert({value})"
  | .option inner =>
    let bound := boundName depth
    let lowered := inner.expr names bound (depth + 1)
    s!"__rt::FfiOption::from_option({value}.map(|{bound}| {lowered}))"

/-- How the error of a native function is serialized. -/
inductive ErrorWrite
  | nothing
  | primitive (p : Primitive)
  | text
  /-- The value is put into its table, and the handle is written. -/
  | insert (id : TypeId)
  | option (inner : ErrorWrite)
deriving Repr, DecidableEq

/-- The serialization of an error of a `TypeRef`. -/
def ErrorWrite.of : TypeRef → ErrorWrite
  | .primitive p => .primitive p
  | .str => .text
  | .handle id => .insert id
  | .option inner => .option (ErrorWrite.of inner)
  | .unit | .result _ _ | .unsupported _ => .nothing

end Boundary.Native
