import Boundary.Config
import Boundary.Managed.Expr
import Boundary.EntryPoint

/-!
# Managed files

What the managed file of a schema consists of, before it is written out.

* `Invocation`: the call of an entry point with everything around it.
* `Wrapper`: the class of a struct, with its properties and methods.
* `VariantRecord`, `EnumClass`: the records and the class of an enum.
* `File`: all parts of a managed file.
* `Schema.managedFile`: the managed file of a schema.
-/

namespace Boundary.Managed

/-! ## Parts -/

/-- The call of an entry point. -/
structure Invocation where
  symbol : String
  args : List Argument
  /-- The owners of handles that native code consumes, unless the call breaks the contract. -/
  forget : List String
  returns : TypeRef
deriving Repr, DecidableEq

/-- A parameter of a method with its managed type. -/
structure Parameter where
  type : String
  name : String
deriving Repr, DecidableEq

/-- A property that reads a field. -/
structure Property where
  name : String
  type : TypeRef
  read : Invocation
deriving Repr, DecidableEq

/-- A method, which is static if it is called on nothing or extends an interface. -/
structure Method where
  /-- The native name. -/
  native : String
  name : String
  isStatic : Bool
  returns : TypeRef
  params : List Parameter
  /-- The parameters whose ownership moves to native code. -/
  transferred : List String
  call : Invocation
deriving Repr, DecidableEq

/-- The class of a struct. -/
structure Wrapper where
  native : String
  name : String
  params : List Parameter
  make : Invocation
  properties : List Property
  methods : List Method
  freeSymbol : String
deriving Repr, DecidableEq

/-- A field of a record, with the entry point that reads it and the argument that it is for the
entry point that makes the variant. -/
structure RecordField where
  name : String
  type : TypeRef
  getter : String
  argument : Argument
deriving Repr, DecidableEq

/-- The record of a variant. -/
structure VariantRecord where
  name : String
  discriminant : Nat
  fields : List RecordField
  makeSymbol : String
deriving Repr, DecidableEq

/-- The class of an enum. -/
structure EnumClass where
  native : String
  name : String
  records : List VariantRecord
  tagSymbol : String
  freeSymbol : String
  methods : List Method
deriving Repr, DecidableEq

/-- The name of the interface of the enum `e`. -/
def EnumClass.interface (e : EnumClass) : String := "I" ++ e.name

/-- The class of the functions that are called on nothing. -/
structure Facade where
  name : String
  methods : List Method
deriving Repr, DecidableEq

/-- The parts of a managed file. -/
structure File where
  libraryName : String
  managedNamespace : String
  bufferFree : String
  options : List FlatType
  entryPoints : List EntryPoint
  wrappers : List Wrapper
  enums : List EnumClass
  facade : Facade
deriving Repr, DecidableEq

/-! ## From a schema -/

/-- What the parts of a file are made from. -/
structure Context where
  schema : Schema
  /-- What every symbol starts with. -/
  start : String
  surface : Surface

/-- The parameters of the function `f`. -/
def Context.params (c : Context) (f : ExportedFunction) : List Parameter :=
  f.params.map fun p => ⟨c.surface.type p.type, paramName p.name⟩

/-- The arguments for the parameters of the function `f`. -/
def Context.arguments (c : Context) (f : ExportedFunction) : List Argument :=
  f.params.map fun p => c.surface.argument (paramName p.name) (localName p.name) p.type

/-- The parameters of the function `f` whose ownership moves to native code. -/
def transferredParams (f : ExportedFunction) : List String :=
  (f.params.filter (·.mode = .transfer)).map fun p => paramName p.name

/-- A method whose first argument is `receiver`, which is consumed under the name `owner`. -/
def Context.method (c : Context) (f : ExportedFunction) (isStatic : Bool)
    (extended : List Parameter) (receiver : List Argument) (owner : String) : Method :=
  let consumed := match f.receiver with
    | .byValue _ => [owner]
    | _ => []
  { native := f.name, name := Naming.pascal f.name, isStatic := isStatic, returns := f.returns
    params := extended ++ c.params f
    transferred := transferredParams f
    call := ⟨c.schema.functionSymbol c.start f, receiver ++ c.arguments f,
      consumed ++ transferredParams f, f.returns⟩ }

/-- The argument `this`, the receiver of a method of a wrapper. -/
def thisArgument : Argument := ⟨"this", "", .receiver⟩

/-- The property that reads the field `f`. -/
def property (start : String) (s : ExportedStruct) (f : Field) : Property :=
  ⟨Naming.pascal f.name, f.type, ⟨Symbol.getter start s.name f.name, [thisArgument], [], f.type⟩⟩

/-- The class of the struct `s`. -/
def Context.wrapper (c : Context) (s : ExportedStruct) : Wrapper :=
  { native := s.name, name := Naming.pascal s.name
    params := s.fields.map fun f => ⟨c.surface.type f.type, paramName f.name⟩
    make := ⟨Symbol.ctor c.start s.name,
      s.fields.map fun f => c.surface.argument (paramName f.name) (localName f.name) f.type, [],
      .primitive .u64⟩
    properties := s.fields.map (property c.start s)
    methods := (c.schema.methodsOf s.id).map fun f => c.method f false [] [thisArgument] "this"
    freeSymbol := Symbol.free c.start s.name }

/-- The field `f` of the record of the variant `v`. -/
def Context.recordField (c : Context) (e : ExportedEnum) (v : Variant) (f : PayloadField) :
    RecordField :=
  { name := Managed.recordField f.name, type := f.type
    getter := Symbol.variantGetter c.start e.name v.name f.name
    argument := c.surface.argument ("__v." ++ Managed.recordField f.name)
      (localName f.name.paramName) f.type }

/-- The record of the variant `v`. -/
def Context.record (c : Context) (e : ExportedEnum) (v : Variant) : VariantRecord :=
  { name := Naming.pascal v.name, discriminant := v.discriminant
    fields := v.payload.fields.map (c.recordField e v)
    makeSymbol := Symbol.variantCtor c.start e.name v.name }

/-- The class of the enum `e`. -/
def Context.enumClass (c : Context) (e : ExportedEnum) : EnumClass :=
  let self : Parameter := ⟨"this " ++ c.surface.qualified ("I" ++ Naming.pascal e.name), "__self"⟩
  let receiver := c.surface.argument "__self" "__selfHandle" (.handle e.id)
  { native := e.name, name := Naming.pascal e.name
    records := e.variants.map (c.record e)
    tagSymbol := Symbol.tag c.start e.name
    freeSymbol := Symbol.free c.start e.name
    methods := (c.schema.methodsOf e.id).map fun f =>
      c.method f true [self] [receiver] "__selfHandle" }

/-- The class of the functions that are called on nothing. -/
def Context.facade (c : Context) (name : String) : Facade :=
  ⟨name, c.schema.freeFunctions.map fun f => c.method f true [] [] ""⟩

end Boundary.Managed

namespace Boundary

open Managed

/-- How managed source refers to the exported types of the schema `s`. -/
def Schema.surface (s : Schema) (c : Config) : Surface := ⟨c.space, s.typeName, s.isEnum⟩

/-- The managed file of the schema `s`. -/
def Schema.managedFile (s : Schema) (c : Config) : Managed.File :=
  let entryPoints := s.entryPoints c.symbols
  let context : Context := ⟨s, c.symbols, s.surface c⟩
  { libraryName := c.libraryName
    managedNamespace := c.space
    bufferFree := Symbol.bufferFree c.symbols
    options := optionTypes entryPoints
    entryPoints := entryPoints
    wrappers := s.structs.map context.wrapper
    enums := s.enums.map context.enumClass
    facade := context.facade c.facade }

end Boundary
