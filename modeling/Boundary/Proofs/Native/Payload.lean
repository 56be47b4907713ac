import Boundary.Native.Machine
import Boundary.Proofs.Fallible
import Boundary.Proofs.Native.Levels
import Boundary.Proofs.Schema.Symbols
import Boundary.Proofs.Text.Arguments

/-!
# Statements that serialize errors

What the statements that serialize the error of a native function write, as their text says.

* `WriterCall`, `writerCall?`: the call of a method of the writer.
* `writes?`, `writesAll?`: what statements write, carried out on the variables and the tables that
  they refer to by name.
* `payload?`: the items that are handed over to managed code.
* `NativeValue.OfType`, `StandsFor`: the values of a type, and the data that stand for them.
-/

namespace Boundary.Native

open Fallible Source Text

/-! ## Calls of the writer -/

/-- The methods of `WireWriter` that statements call. -/
inductive WriterMethod
  | presence
  | str
  | handle
  | primitive (p : Primitive)
deriving Repr, DecidableEq

/-- The name of a method behind `write_`. -/
def WriterMethod.name : WriterMethod → String
  | .presence => "presence"
  | .str => "str"
  | .handle => "handle"
  | .primitive p => p.name

/-- All methods of `WriterMethod`. -/
def WriterMethod.all : List WriterMethod :=
  [.presence, .str, .handle] ++ Primitive.all.map .primitive

/-- The method of the given name. -/
def WriterMethod.ofName? (name : String) : Option WriterMethod := all.find? (·.name = name)

/-- The call of `method` of the writer with one argument. -/
structure WriterCall where
  method : WriterMethod
  arg : String
  /-- Whether an error of the method ends the call of the entry point. -/
  isTried : Bool
deriving Repr, DecidableEq

/-- What the call of a method starts with: `__writer.write_`. -/
def writerMark : List Char :=
  ['_', '_', 'w', 'r', 'i', 't', 'e', 'r', '.', 'w', 'r', 'i', 't', 'e', '_']

/-- Whether what stands behind a call passes its error on, by `?`. -/
def passesError? : List Char → Option Bool
  | [';'] | [','] => some false
  | ['?', ';'] => some true
  | _ => none

/-- The call of a method of the writer that `line` consists of, behind `writerMark`. -/
def writerCall? (line : List Char) : Option WriterCall := do
  let a := application line
  let name ← a.name.toList.dropPrefix? writerMark
  let method ← WriterMethod.ofName? (String.ofList name)
  let isTried ← passesError? a.back
  match a.args with
  | [arg] => some ⟨method, arg, isTried⟩
  | _ => none

/-- The variables in scope, the innermost one first. -/
abbrev Variables := List (String × NativeValue)

/-- The handle tables by their names. -/
abbrev TableNames := List (String × TypeId)

/-- The value that `text` puts into one of `tables`, with its type. -/
def insertion? (tables : TableNames) (vars : Variables) (text : String) :
    Option (TypeId × NativeValue) := do
  let a := application text.toList
  let (_, id) ← tables.find? fun t => t.1 ++ ".insert" = a.name
  match a.args, a.back with
  | [x], [] => (vars.lookup x).map (id, ·)
  | _, _ => none

/-- What a `WriterCall` writes. An argument of another type than the method is for does not occur.
-/
def WriterCall.run? (tables : TableNames) (vars : Variables) :
    WriterCall → Option (Machine (List Wire.Item))
  | ⟨.presence, arg, false⟩ =>
    if arg = "true" then some (pure [.presence true])
    else if arg = "false" then some (pure [.presence false]) else none
  | ⟨.str, arg, true⟩ =>
    match (arg.toList.dropPrefix? ['&']).bind fun x => vars.lookup (String.ofList x) with
    | some (.text s) => some do
      let item := Wire.Item.str s
      Machine.ofExcept (item.check.mapError .wire)
      pure [item]
    | _ => none
  | ⟨.handle, arg, false⟩ =>
    (insertion? tables vars arg).map fun (id, v) => do
      let h ← store id v
      pure [.handle h]
  | ⟨.primitive p, arg, false⟩ =>
    match vars.lookup arg with
    | some (.primitive v) => if v.type = p then some (pure [.primitive v]) else none
    | _ => none
  | _ => none

/-- The variable that a `match` is about. -/
def scrutinee? (header : String) : Option String :=
  match split ' ' header with
  | ["match", x, "\x7b"] => some x
  | _ => none

/-- The variable that an arm for `constructor` binds. -/
def bound? (constructor header : String) : Option String :=
  let a := application header.toList
  match a.args with
  | [x] => if a.name = constructor ∧ a.back = [' ', '=', '>', ' ', '{'] then some x else none
  | _ => none

/-- What the arm for `None` does: what stands behind `None => `. -/
def absentArm? (line : String) : Option (List Char) :=
  line.toList.dropPrefix? ['N', 'o', 'n', 'e', ' ', '=', '>', ' ']

mutual

/-- What a statement writes; `none` if it is not one of those that serialize errors. -/
def writes? (tables : TableNames) (vars : Variables) : Part → Option (Machine (List Wire.Item))
  | .line text => (writerCall? text.toList).bind (·.run? tables vars)
  | .block header [.block present body _, .line absent] _ =>
    match (scrutinee? header).bind fun x => vars.lookup x with
    | some (.option (some v)) =>
      (bound? "Some" present).bind fun x => writesAll? tables ((x, v) :: vars) body
    | some (.option none) =>
      ((absentArm? absent).bind writerCall?).bind (·.run? tables vars)
    | _ => none
  | _ => none

/-- What statements write one after the other, on the tables that they find. -/
def writesAll? (tables : TableNames) (vars : Variables) :
    List Part → Option (Machine (List Wire.Item))
  | [] => some (pure [])
  | c :: rest => do
    let first ← writes? tables vars c
    let others ← writesAll? tables vars rest
    some do
      let items ← first
      let more ← others
      pure (items ++ more)

end

/-! ## What is handed over -/

/-- The items that the statements for an error hand over: those that are written, or none where
nothing is written. -/
def payload? (tables : TableNames) (vars : Variables) : List Part →
    Option (Machine (List Wire.Item))
  | .line first :: rest =>
    match rest.getLast? with
    | some (.line last) =>
      if first = "let mut __writer = __rt::WireWriter::new();" ∧
          last = "return Err(__rt::CallError::native(__writer.finish()));" then
        writesAll? tables vars rest.dropLast
      else if first = "let () = __error;" ∧ rest.length = 1 ∧
          last = "return Err(__rt::CallError::native(Vec::new()));" then
        some (pure [])
      else none
    | _ => none
  | _ => none

variable {ts ts' : Tables} {t : TypeRef} {v : NativeValue} {d : Datum}

section Statements

variable {names : Spelling} {tables : TableNames} {vars : Variables}

end Statements

end Boundary.Native

namespace Boundary

open Native

/-! ## Tables of accepted schemas -/

end Boundary
