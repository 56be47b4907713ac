import Boundary.Declaration
import Boundary.Resolution

/-!
# Schemas

What is exported, with every type resolved. Both kinds of source are generated from a schema.

* `ExportedStruct`, `ExportedEnum`, `ExportedFunction`: the exported items.
* `Payload.fields`: the fields of a variant; those of a tuple are named by their place.
* `Schema`: all items in the order of their numbers, and the index of managed names.
* `ExportedEnum.variant?`: the variant of a discriminant.
-/

namespace Boundary

/-- The number of an exported function. -/
structure FunctionId where
  index : Nat
deriving Repr, DecidableEq, Inhabited

/-- A field of a struct with its type. -/
structure Field where
  name : String
  type : TypeRef
deriving Repr, DecidableEq

/-- An exported struct. -/
structure ExportedStruct where
  id : TypeId
  name : String
  fields : List Field
  location : Location
deriving Repr, DecidableEq

/-- What a variant carries. -/
inductive Payload
  | unit
  | tuple (elems : List TypeRef)
  | struct (fields : List Field)
deriving Repr, DecidableEq

/-- How a field of a variant is named. -/
inductive FieldName
  | index (n : Nat)
  | named (name : String)
deriving Repr, DecidableEq

/-- A field of a variant. -/
structure PayloadField where
  name : FieldName
  type : TypeRef
deriving Repr, DecidableEq

/-- The fields of a `Payload` in declared order. -/
def Payload.fields : Payload → List PayloadField
  | .unit => []
  | .tuple elems => elems.zipIdx.map fun (type, i) => ⟨.index i, type⟩
  | .struct fields => fields.map fun f => ⟨.named f.name, f.type⟩

/-- A variant of an exported enum. -/
structure Variant where
  name : String
  discriminant : Nat
  payload : Payload
deriving Repr, DecidableEq

/-- An exported enum. -/
structure ExportedEnum where
  id : TypeId
  name : String
  variants : List Variant
  location : Location
deriving Repr, DecidableEq

/-- The variant of `e` that stands at the place `discriminant`. -/
def ExportedEnum.variant? (e : ExportedEnum) (discriminant : Nat) : Option Variant :=
  e.variants[discriminant]?

/-- What a function is called on. -/
inductive Receiver
  | none
  | byRef (id : TypeId)
  | byValue (id : TypeId)
deriving Repr, DecidableEq

/-- The type that a `Receiver` is of. -/
def Receiver.typeId? : Receiver → Option TypeId
  | .none => Option.none
  | .byRef id | .byValue id => some id

/-- A parameter with its type. -/
structure Param where
  name : String
  type : TypeRef
  mode : ParamMode
deriving Repr, DecidableEq

/-- An exported function or method. -/
structure ExportedFunction where
  id : FunctionId
  name : String
  receiver : Receiver
  params : List Param
  returns : TypeRef
  location : Location
deriving Repr, DecidableEq

/-- What a managed name stands for. -/
inductive NameKind
  | struct
  | enum
  | function
  | reserved
deriving Repr, DecidableEq

/-- An entry of the index of managed names. -/
structure NameEntry where
  nativeName : String
  kind : NameKind
deriving Repr, DecidableEq

/-- Everything that is exported, in the order of the declarations. -/
structure Schema where
  structs : List ExportedStruct := []
  enums : List ExportedEnum := []
  functions : List ExportedFunction := []
  /-- The managed names of the top level, each with what it stands for. -/
  names : List (String × NameEntry) := []
deriving Repr, DecidableEq

/-- The struct with the number `id`. -/
def Schema.struct? (s : Schema) (id : TypeId) : Option ExportedStruct := s.structs.find? (·.id = id)

/-- The enum with the number `id`. -/
def Schema.enum? (s : Schema) (id : TypeId) : Option ExportedEnum := s.enums.find? (·.id = id)

/-- The function with the number `id`. -/
def Schema.function? (s : Schema) (id : FunctionId) : Option ExportedFunction :=
  s.functions.find? (·.id = id)

/-- The name of the exported type with the number `id`, if there is one. -/
def Schema.typeName? (s : Schema) (id : TypeId) : Option String :=
  match s.struct? id with
  | some d => some d.name
  | none => (s.enum? id).map (·.name)

/-- The name of the exported type with the number `id`. -/
def Schema.typeName (s : Schema) (id : TypeId) : String := (s.typeName? id).getD "<unknown>"

/-- Whether `id` is the number of an enum. -/
def Schema.isEnum (s : Schema) (id : TypeId) : Bool := (s.enum? id).isSome

/-- The functions that are called on nothing. -/
def Schema.freeFunctions (s : Schema) : List ExportedFunction :=
  s.functions.filter (·.receiver = .none)

/-- The functions that are called on values of the type with the number `id`. -/
def Schema.methodsOf (s : Schema) (id : TypeId) : List ExportedFunction :=
  s.functions.filter (·.receiver.typeId? = some id)

/-- The name `name` qualified by its `owner`, if it has one. -/
def qualified (owner : Option String) (name : String) : String :=
  match owner with
  | some owner => s!"{owner}::{name}"
  | none => name

end Boundary
