import Boundary.Schema.Registry

/-!
# From declarations to exported items

What an exported item consists of depends on its declaration and on the table of types alone.
Parts of an unusable name are left out; a schema with such a part is rejected.

* `StructDecl.exported`, `EnumDecl.exported`, `FunctionDecl.exported`: the exported items.
* `Registry.schema`: the schema of a registry.
-/

namespace Boundary

/-- A field with its type resolved. -/
def FieldDecl.exported (table : TypeTable) (f : FieldDecl) : Field :=
  ⟨f.name, f.type.resolve table .field⟩

/-- The fields of a usable name. -/
def exportedFields (table : TypeTable) (fields : List FieldDecl) : List Field :=
  (fields.filter fun f => isUsableName f.name).map (·.exported table)

/-- A struct with its types resolved. -/
def StructDecl.exported (table : TypeTable) (id : TypeId) (d : StructDecl) : ExportedStruct :=
  ⟨id, d.name, exportedFields table d.fields, d.location⟩

/-- A payload with its types resolved. -/
def PayloadDecl.exported (table : TypeTable) : PayloadDecl → Payload
  | .unit => .unit
  | .tuple elems => .tuple (elems.map (·.resolve table .field))
  | .struct fields => .struct (exportedFields table fields)

/-- An enum with its types resolved. The discriminant of a variant is its place. -/
def EnumDecl.exported (table : TypeTable) (id : TypeId) (d : EnumDecl) : ExportedEnum :=
  ⟨id, d.name,
    (d.variants.zipIdx.filter fun (v, _) => isUsableName v.name).map fun (v, i) =>
      ⟨v.name, i, v.payload.exported table⟩,
    d.location⟩

/-- A receiver; one that is no exported type is left out. -/
def ReceiverDecl.exported (table : TypeTable) (r : ReceiverDecl) : Receiver :=
  match table.lookup (Naming.lastSegment r.typeName), r.mode with
  | none, _ => .none
  | some id, .ref => .byRef id
  | some id, .value => .byValue id

/-- A parameter with its type resolved. -/
def ParamDecl.exported (table : TypeTable) (p : ParamDecl) : Param :=
  ⟨p.name, p.type.resolve table .param, p.type.paramMode p.transfer⟩

/-- A function with its types resolved. -/
def FunctionDecl.exported (table : TypeTable) (id : FunctionId) (d : FunctionDecl) :
    ExportedFunction :=
  { id, name := d.name
    receiver := (d.receiver.map (·.exported table)).getD .none
    params := (d.params.filter fun p => isUsableName p.name).map (·.exported table)
    returns := d.returns.resolve table .return_
    location := d.location }

/-- The exported structs of numbered types. -/
def exportedStructs (table : TypeTable) (types : List (TypeDecl × Nat)) : List ExportedStruct :=
  types.filterMap fun
    | (.struct d, i) => some (d.exported table ⟨i⟩)
    | (.enum _, _) => none

/-- The exported enums of numbered types. -/
def exportedEnums (table : TypeTable) (types : List (TypeDecl × Nat)) : List ExportedEnum :=
  types.filterMap fun
    | (.enum d, i) => some (d.exported table ⟨i⟩)
    | (.struct _, _) => none

/-- The schema of a registry with the given index of names. -/
def Registry.schema (r : Registry) (names : List (String × NameEntry)) : Schema :=
  { structs := exportedStructs r.table r.types.zipIdx
    enums := exportedEnums r.table r.types.zipIdx
    functions := r.functions.zipIdx.map fun (f, i) => f.exported r.table ⟨i⟩
    names }

end Boundary
