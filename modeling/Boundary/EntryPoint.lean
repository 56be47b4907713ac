import Boundary.FlatType
import Boundary.Schema

/-!
# Entry points

The flat functions through which managed code reaches native code. Both kinds of source are made
from the same list of entry points, so that what one side defines is what the other side declares.

* `EntryPurpose`: what an entry point is for.
* `EntryPoint`: an entry point with its symbol and signature. One more parameter, for the status of
  the call, is understood.
* `Symbol.bufferFree` and the other names in `Symbol`: the symbols.
* `Schema.entryPoints`: the entry points of a schema, in the order in which they are written.
* `optionTypes`: the options that the entry points use.
-/

namespace Boundary

/-- What an entry point is for. -/
inductive EntryPurpose
  /-- Releases bytes that native code gave away. -/
  | bufferFree
  /-- Makes a struct. -/
  | ctor (id : TypeId)
  /-- Releases a value. -/
  | free (id : TypeId)
  /-- Reads a field of a struct. -/
  | getter (id : TypeId) (field : Nat)
  /-- Makes a variant of an enum. -/
  | variantCtor (id : TypeId) (variant : Nat)
  /-- Reads the discriminant of an enum. -/
  | tag (id : TypeId)
  /-- Reads a field of a variant. -/
  | variantGetter (id : TypeId) (variant field : Nat)
  /-- Calls a function. -/
  | function (id : FunctionId)
deriving Repr, DecidableEq

/-- A parameter of an entry point by its native name. -/
structure FlatParam where
  name : String
  type : FlatType
deriving Repr, DecidableEq

/-- A flat function. -/
structure EntryPoint where
  purpose : EntryPurpose
  symbol : String
  params : List FlatParam
  ret : FlatType
deriving Repr, DecidableEq

/-- The name of the parameter that holds the handle of a receiver. -/
def handleName : String := "__handle"

/-- The parameter that holds the handle of a receiver. -/
def handleParam : FlatParam := ⟨handleName, .handle⟩

/-! ## Symbols -/

namespace Symbol

/-- A symbol made of `start` and `parts`. -/
def join (start : String) (parts : List String) : String := "_".intercalate (start :: parts)

/-- The symbol that releases bytes. -/
def bufferFree (start : String) : String := join start ["rustbuffer_free"]

/-- The symbol that makes the struct `type`. -/
def ctor (start type : String) : String := join start ["ctor", Naming.snake type]

/-- The symbol that releases a value of the type `type`. -/
def free (start type : String) : String := join start ["free", Naming.snake type]

/-- The symbol that reads the field `field` of the struct `type`. -/
def getter (start type field : String) : String :=
  join start ["get", Naming.snake type, Naming.bare field]

/-- The symbol that makes the variant `variant` of the enum `type`. -/
def variantCtor (start type variant : String) : String :=
  join start ["ctor", Naming.snake type, Naming.snake variant]

/-- The symbol that reads the discriminant of the enum `type`. -/
def tag (start type : String) : String := join start ["tag", Naming.snake type]

/-- A field of a variant in a symbol. -/
def fieldPart : FieldName → String
  | .index n => toString n
  | .named name => Naming.bare name

/-- The symbol that reads a field of the variant `variant` of the enum `type`. -/
def variantGetter (start type variant : String) (field : FieldName) : String :=
  join start ["get", Naming.snake type, Naming.snake variant, fieldPart field]

/-- The symbol that calls a function, where `owner` is the type that it is called on. -/
def function (start : String) (owner : Option String) (name : String) : String :=
  match owner with
  | none => join start ["fn", Naming.bare name]
  | some owner => join start ["method", Naming.snake owner, Naming.bare name]

end Symbol

/-- The name of the type that the function `f` is called on. -/
def Schema.ownerName (s : Schema) (f : ExportedFunction) : Option String :=
  f.receiver.typeId?.map s.typeName

/-- The symbol of the function `f`. -/
def Schema.functionSymbol (s : Schema) (start : String) (f : ExportedFunction) : String :=
  Symbol.function start (s.ownerName f) f.name

/-! ## The list of entry points -/

/-- The parameter for a field of a variant. -/
def FieldName.paramName : FieldName → String
  | .index n => s!"item{n}"
  | .named name => name

/-- The entry point that releases a value of the type `id`. -/
def freeEntry (start : String) (id : TypeId) (name : String) : EntryPoint :=
  ⟨.free id, Symbol.free start name, [handleParam], .void⟩

/-- The entry point that makes the struct `s`. -/
def ExportedStruct.ctorEntry (start : String) (s : ExportedStruct) : EntryPoint :=
  ⟨.ctor s.id, Symbol.ctor start s.name, s.fields.map fun f => ⟨f.name, .of .in_ f.type⟩, .handle⟩

/-- The entry points that read the fields of the struct `s`. -/
def ExportedStruct.getterEntries (start : String) (s : ExportedStruct) : List EntryPoint :=
  s.fields.zipIdx.map fun (f, i) =>
    ⟨.getter s.id i, Symbol.getter start s.name f.name, [handleParam], .of .out f.type⟩

/-- The entry points of the struct `s`. -/
def ExportedStruct.entryPoints (start : String) (s : ExportedStruct) : List EntryPoint :=
  s.ctorEntry start :: s.getterEntries start ++ [freeEntry start s.id s.name]

/-- The entry points that make the variants of the enum `e`. -/
def ExportedEnum.ctorEntries (start : String) (e : ExportedEnum) : List EntryPoint :=
  e.variants.zipIdx.map fun (v, i) =>
    ⟨.variantCtor e.id i, Symbol.variantCtor start e.name v.name,
      v.payload.fields.map fun f => ⟨f.name.paramName, .of .in_ f.type⟩, .handle⟩

/-- The entry point that reads the discriminant of the enum `e`. -/
def ExportedEnum.tagEntry (start : String) (e : ExportedEnum) : EntryPoint :=
  ⟨.tag e.id, Symbol.tag start e.name, [handleParam], .scalar .u32⟩

/-- The entry points that read the fields of the variants of the enum `e`. -/
def ExportedEnum.getterEntries (start : String) (e : ExportedEnum) : List EntryPoint :=
  e.variants.zipIdx.flatMap fun (v, i) =>
    v.payload.fields.zipIdx.map fun (f, j) =>
      ⟨.variantGetter e.id i j, Symbol.variantGetter start e.name v.name f.name, [handleParam],
        .of .out f.type⟩

/-- The entry points of the enum `e`. -/
def ExportedEnum.entryPoints (start : String) (e : ExportedEnum) : List EntryPoint :=
  e.ctorEntries start ++ e.tagEntry start :: e.getterEntries start ++ [freeEntry start e.id e.name]

/-- The entry point of the function `f`. A receiver comes first. -/
def Schema.functionEntry (s : Schema) (start : String) (f : ExportedFunction) : EntryPoint :=
  ⟨.function f.id, s.functionSymbol start f,
    (if f.receiver = .none then [] else [handleParam]) ++
      f.params.map fun p => ⟨p.name, .of .in_ p.type⟩,
    .of .out f.returns⟩

/-- The entry point that releases bytes. -/
def bufferFreeEntry (start : String) : EntryPoint :=
  ⟨.bufferFree, Symbol.bufferFree start, [⟨"buf", .buffer⟩], .void⟩

/-- The entry points of a schema, where every symbol starts with `start`. -/
def Schema.entryPoints (s : Schema) (start : String) : List EntryPoint :=
  bufferFreeEntry start :: s.structs.flatMap (·.entryPoints start)
    ++ s.enums.flatMap (·.entryPoints start) ++ s.functions.map (s.functionEntry start)

/-- The types of the entry point `s`, the returned one last. -/
def EntryPoint.types (s : EntryPoint) : List FlatType := s.params.map (·.type) ++ [s.ret]

/-- The options that `entryPoints` use, in the order of their first use. -/
def optionTypes (entryPoints : List EntryPoint) : List FlatType :=
  (entryPoints.flatMap EntryPoint.types).foldl
    (fun seen t => if t.isOption && !seen.contains t then seen ++ [t] else seen) []

end Boundary
