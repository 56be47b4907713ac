import Boundary.FlatType
import Boundary.Schema

/-!
# Managed expressions

The conversions that managed code performs around a call, as data and as source.

* `Surface`: how managed source refers to exported types.
* `Surface.type`: the managed type of a boundary type.
* `ArgumentForm`, `Argument`: how an argument becomes a flat value, with the temporaries that the
  conversion needs.
* `LiftForm`: how a flat value becomes a managed one.
* `ReadForm`: how a serialized error is read.
-/

namespace Boundary.Managed

/-- How managed source refers to exported types. -/
structure Surface where
  managedNamespace : String
  typeName : TypeId → String
  isEnum : TypeId → Bool

/-- The name `name` of the generated namespace as no other name hides it. -/
def Surface.qualified (s : Surface) (name : String) : String :=
  s!"global::{s.managedNamespace}.{name}"

/-- The class of the exported type `id`. -/
def Surface.classOf (s : Surface) (id : TypeId) : String :=
  s.qualified (Naming.pascal (s.typeName id))

/-- The managed type of the exported type `id`: the class of a struct, the interface of an enum. -/
def Surface.handleType (s : Surface) (id : TypeId) : String :=
  let name := Naming.pascal (s.typeName id)
  s.qualified (if s.isEnum id then "I" ++ name else name)

/-- The managed type of a `TypeRef`. -/
def Surface.type (s : Surface) : TypeRef → String
  | .unit => "void"
  | .primitive p => p.managedName
  | .str => "string"
  | .handle id => s.handleType id
  | .option inner => s.type inner ++ "?"
  | .result ok _ => s.type ok
  | .unsupported _ => "object"

/-! ## Names -/

/-- The managed name of the parameter `name`. -/
def paramName (name : String) : String := Naming.managedIdent (Naming.camel name)

/-- The name of the parameter `name` of an imported function. -/
def importName (name : String) : String := Naming.managedIdent (Naming.bare name)

/-- The name of the temporary for the parameter `name`. What it starts with keeps it apart from the
fixed names of a body. -/
def localName (name : String) : String := "__arg" ++ Naming.pascal name

/-- The name of a field of a record. -/
def recordField : FieldName → String
  | .index n => s!"Item{n}"
  | .named name => Naming.pascal name

/-! ## Arguments -/

/-- The truth value `source` as a byte. -/
def byteOf (source : String) : String := source ++ " ? (byte)1 : (byte)0"

/-- How an argument becomes a flat value. -/
inductive ArgumentForm
  /-- Numbers cross unchanged. -/
  | same
  | bool
  /-- Text is copied for the duration of the call. -/
  | text
  /-- A value of an enum is made in native code for the duration of the call. -/
  | enum (id : TypeId)
  /-- The handle of a wrapper is lent; the wrapper has to stay alive until after the call. -/
  | wrapper
  /-- The wrapper that a method belongs to is lent in the same way. -/
  | receiver
  | optionNumber (type : FlatType)
  | optionBool (type : FlatType)
  | optionWrapper (type : FlatType)
  | optionText (type : FlatType)
  | optionEnum (type : FlatType) (id : TypeId)
deriving Repr, DecidableEq

/-- The form of an argument of the given type. -/
def ArgumentForm.of (isEnum : TypeId → Bool) : TypeRef → ArgumentForm
  | .primitive .bool => .bool
  | .str => .text
  | .handle id => if isEnum id then .enum id else .wrapper
  | .option inner =>
    let type := FlatType.of .in_ (.option inner)
    match inner with
    | .primitive .bool => .optionBool type
    | .primitive _ => .optionNumber type
    | .handle id => if isEnum id then .optionEnum type id else .optionWrapper type
    | _ => .optionText type
  | _ => .same

/-- An argument: its managed expression, the name of its temporary, and its form. -/
structure Argument where
  source : String
  temporary : String
  form : ArgumentForm
deriving Repr, DecidableEq

/-- The expression that makes a value of an enum for the duration of a call. -/
def enumTemporary (s : Surface) (id : TypeId) (source : String) : String :=
  let class_ := s.classOf id
  "new OwnedHandle(" ++ class_ ++ ".Lower(" ++ source ++ "), " ++ class_ ++ ".Free, \""
    ++ s.typeName id ++ "\")"

/-- The expression that copies a text for the duration of a call. -/
def textTemporary (source : String) : String := s!"new Utf8Arg({source})"

/-- The statement that binds the temporary of the argument `a` to `value`. -/
def bindTemporary (a : Argument) (value : String) : String :=
  s!"using var {a.temporary} = {value};"

/-- The expression that is `null` where `source` is, and `value` elsewhere. -/
def nullable (source value : String) : String := s!"{source} is null ? null : {value}"

/-- The statements for the argument `a` before the call. -/
def Argument.setup (s : Surface) (a : Argument) : List String :=
  match a.form with
  | .text => [bindTemporary a (textTemporary a.source)]
  | .enum id => [bindTemporary a (enumTemporary s id a.source)]
  | .optionText _ => [bindTemporary a (nullable a.source (textTemporary a.source))]
  | .optionEnum _ id => [bindTemporary a (nullable a.source (enumTemporary s id a.source))]
  | _ => []

/-- A flat option that holds a value. -/
def presentOption (type : FlatType) (value : String) : String :=
  s!"new {type.managed} \x7b Present = 1, Value = {value} \x7d"

/-- A flat option that holds `value` unless `source` is `null`. -/
def optionUnlessNull (type : FlatType) (source value : String) : String :=
  s!"{source} is null ? default : {presentOption type value}"

/-- A flat option of a primitive value. -/
def optionOfValue (type : FlatType) (a : Argument) (value : String) : String :=
  s!"{a.source} is \x7b \x7d {a.temporary} ? {presentOption type value} : default"

/-- The expression of the flat argument. -/
def Argument.expr (a : Argument) : String :=
  match a.form with
  | .same => a.source
  | .bool => byteOf a.source
  | .text => a.temporary ++ ".View"
  | .enum _ => a.temporary ++ ".Value"
  | .wrapper => a.source ++ ".RawHandle"
  | .receiver => "RawHandle"
  | .optionNumber type => optionOfValue type a a.temporary
  | .optionBool type => optionOfValue type a (byteOf a.temporary)
  | .optionWrapper type => optionUnlessNull type a.source (a.source ++ ".RawHandle")
  | .optionText type => optionUnlessNull type a.temporary (a.temporary ++ ".View")
  | .optionEnum type _ => optionUnlessNull type a.temporary (a.temporary ++ ".Value")

/-- What has to stay alive for the argument `a` until after the call. -/
def Argument.keepAlive? (a : Argument) : Option String :=
  match a.form with
  | .wrapper | .receiver | .optionWrapper _ => some a.source
  | _ => none

/-- The argument `source` for a parameter of the type `t`. -/
def Surface.argument (s : Surface) (source temporary : String) (t : TypeRef) : Argument :=
  ⟨source, temporary, ArgumentForm.of s.isEnum t⟩

/-! ## Results -/

/-- How a flat value becomes a managed one. -/
inductive LiftForm
  | same
  | bool
  | text
  /-- A handle becomes a wrapper, or the record of a variant. -/
  | handle (id : TypeId)
  | option (type : TypeRef) (inner : LiftForm)
deriving Repr, DecidableEq

/-- The lift of a value of the given type. -/
def LiftForm.of : TypeRef → LiftForm
  | .primitive .bool => .bool
  | .str => .text
  | .handle id => .handle id
  | .option inner => .option (.option inner) (LiftForm.of inner)
  | _ => .same

/-- The managed value for `handle`, of the type `id`. -/
def Surface.ofHandle (s : Surface) (id : TypeId) (handle : String) : String :=
  s!"{s.classOf id}." ++ (if s.isEnum id then "Decode(" else "FromHandle(") ++ handle ++ ")"

/-- The expression that lifts the flat expression `value`. -/
def LiftForm.expr (s : Surface) (value : String) : LiftForm → String
  | .same => value
  | .bool => value ++ " != 0"
  | .text => s!"Ffi.LiftString({value})"
  | .handle id => s.ofHandle id value
  | .option type inner =>
    let lifted := inner.expr s (value ++ ".Value")
    s!"{value}.Present != 0 ? ({s.type type})({lifted}) : null"

/-- How a serialized error is read. -/
inductive ReadForm
  | nothing
  | primitive (p : Primitive)
  | text
  | handle (id : TypeId)
  | option (type : TypeRef) (inner : ReadForm)
deriving Repr, DecidableEq

/-- How an error of the given type is read. -/
def ReadForm.of : TypeRef → ReadForm
  | .primitive p => .primitive p
  | .str => .text
  | .handle id => .handle id
  | .option inner => .option (.option inner) (ReadForm.of inner)
  | .unit | .result _ _ | .unsupported _ => .nothing

/-- The expression that reads an error from `reader`. -/
def ReadForm.expr (s : Surface) (reader : String) : ReadForm → String
  | .nothing => "default"
  | .primitive p => s!"{reader}.Read{Naming.pascal p.name}()"
  | .text => s!"{reader}.ReadString()"
  | .handle id => s.ofHandle id (reader ++ ".ReadHandle()")
  | .option type inner =>
    s!"{reader}.ReadPresence() ? ({s.type type})({inner.expr s reader}) : null"

end Boundary.Managed
