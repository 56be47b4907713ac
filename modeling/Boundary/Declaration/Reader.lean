import Boundary.Declaration
import Boundary.Json.Read

/-!
# Declarations from JSON

* `TypeExpr.ofValue`: a type expression inside a declaration.
* `Location.ofValue`: a location inside a declaration.
* `readDeclarations`: a document that is a list of declarations or a single one.
* `readTypeExpr`, `readLocation`: documents of their own.

An error inside a tagged value is located at the value itself, since its members are put aside
until the tag is known.
-/

namespace Boundary

open Json

/-! ## Type expressions -/

/-- The shapes of a type expression. -/
inductive TypeExpr.Kind
  | path
  | ref
  | ptr
  | tuple
  | slice
  | array
  | generic
  | traitObject
deriving DecidableEq

/-- The kinds by their tags. -/
def TypeExpr.kinds : List (String × TypeExpr.Kind) :=
  [("path", .path), ("ref", .ref), ("ptr", .ptr), ("tuple", .tuple), ("slice", .slice),
    ("array", .array), ("generic", .generic), ("trait_object", .traitObject)]

/-- The parts that a type expression may have. -/
inductive TypeExpr.Part
  | text
  | types
  | isMutable
  | inner
  | length
deriving DecidableEq

/-- A part of a type expression by name, and whether it must be given. -/
structure TypeExpr.Slot where
  name : String
  part : TypeExpr.Part
  required : Bool

/-- The parts of each kind, in their declared order. -/
def TypeExpr.Kind.slots : TypeExpr.Kind → List TypeExpr.Slot
  | .path => [⟨"name", .text, true⟩, ⟨"args", .types, false⟩]
  | .ref | .ptr => [⟨"mutable", .isMutable, false⟩, ⟨"inner", .inner, true⟩]
  | .tuple => [⟨"elems", .types, false⟩]
  | .slice => [⟨"inner", .inner, true⟩]
  | .array => [⟨"inner", .inner, true⟩, ⟨"len", .length, true⟩]
  | .generic => [⟨"name", .text, true⟩]
  | .traitObject => [⟨"bound", .text, true⟩]

/-- The kind in words. -/
def TypeExpr.Kind.what : TypeExpr.Kind → String
  | .path => "struct variant TypeExpr::Path"
  | .ref => "struct variant TypeExpr::Ref"
  | .ptr => "struct variant TypeExpr::Ptr"
  | .tuple => "struct variant TypeExpr::Tuple"
  | .slice => "struct variant TypeExpr::Slice"
  | .array => "struct variant TypeExpr::Array"
  | .generic => "struct variant TypeExpr::Generic"
  | .traitObject => "struct variant TypeExpr::TraitObject"

/-- The parts read so far; those not given have their defaults. -/
structure TypeExpr.Draft where
  text : String := ""
  types : List TypeExpr := []
  isMutable : Bool := false
  inner : TypeExpr := .unit
  length : Nat := 0

/-- The expression made of its parts. -/
def TypeExpr.Draft.finish (d : TypeExpr.Draft) : TypeExpr.Kind → TypeExpr
  | .path => .path d.text d.types
  | .ref => .ref d.isMutable d.inner
  | .ptr => .ptr d.isMutable d.inner
  | .tuple => .tuple d.types
  | .slice => .slice d.inner
  | .array => .array d.inner d.length
  | .generic => .generic d.text
  | .traitObject => .traitObject d.text

/-- The first part that must be given and is not among the members. -/
def TypeExpr.Kind.missing? (kind : TypeExpr.Kind) (members : Members) : Option TypeExpr.Slot :=
  kind.slots.find? fun slot => slot.required && (members.get? slot.name).isNone

mutual

/-- A type expression. -/
def TypeExpr.ofValue : Value → Except ShapeError TypeExpr
  | .object members =>
    match members.lookup "kind" with
    | none => .error (.missingField "kind")
    | some tag => do
      let kind ← readTag TypeExpr.kinds tag
      let draft ← TypeExpr.ofMembers kind {} members
      match kind.missing? members with
      | some slot => throw (.missingField slot.name)
      | none => pure (draft.finish kind)
  | .array [] => .error (.missingField "kind")
  | .array (tag :: items) => do
    let kind ← readTag TypeExpr.kinds tag
    let draft ← TypeExpr.ofItems kind 0 {} kind.slots items
    pure (draft.finish kind)
  | v => v.refuse "internally tagged enum TypeExpr"
termination_by v => (sizeOf v, 0)

/-- A list of type expressions. -/
def TypeExpr.ofValues : List Value → Except ShapeError (List TypeExpr)
  | [] => .ok []
  | v :: rest => do
    let t ← TypeExpr.ofValue v
    let ts ← TypeExpr.ofValues rest
    pure (t :: ts)
termination_by vs => (sizeOf vs, 0)

/-- One part of a type expression. -/
def TypeExpr.ofPart (part : TypeExpr.Part) (draft : TypeExpr.Draft) (v : Value) :
    Except ShapeError TypeExpr.Draft :=
  match part with
  | .text => (readString v).map fun s => { draft with text := s }
  | .isMutable => (readBool v).map fun b => { draft with isMutable := b }
  | .inner => (TypeExpr.ofValue v).map fun t => { draft with inner := t }
  | .length => (readNat wordMax "usize" v).map fun n => { draft with length := n }
  | .types =>
    match v with
    | .array items => (TypeExpr.ofValues items).map fun ts => { draft with types := ts }
    | v => v.refuse "a sequence"
termination_by (sizeOf v, 1)

/-- The parts among the members of an object. -/
def TypeExpr.ofMembers (kind : TypeExpr.Kind) (draft : TypeExpr.Draft) :
    List (String × Value) → Except ShapeError TypeExpr.Draft
  | [] => .ok draft
  | (key, v) :: rest => do
    match kind.slots.find? (·.name = key) with
    | some slot =>
      let draft ← TypeExpr.ofPart slot.part draft v
      TypeExpr.ofMembers kind draft rest
    | none => TypeExpr.ofMembers kind draft rest
termination_by members => (sizeOf members, 0)

/-- The parts among the items of an array, from the part number `n` on. -/
def TypeExpr.ofItems (kind : TypeExpr.Kind) (n : Nat) (draft : TypeExpr.Draft) :
    List TypeExpr.Slot → List Value → Except ShapeError TypeExpr.Draft
  | [], [] => .ok draft
  | [], v :: rest =>
    .error (.invalidLength (n + (v :: rest).length) (counted n "element" ++ " in sequence"))
  | slots, [] =>
    match slots.findIdx? (·.required) with
    | some i =>
      .error (.invalidLength (n + i) (kind.what ++ " with " ++ counted kind.slots.length "element"))
    | none => .ok draft
  | slot :: slots, v :: rest => do
    let draft ← TypeExpr.ofPart slot.part draft v
    TypeExpr.ofItems kind (n + 1) draft slots rest
termination_by _ items => (sizeOf items, 0)

end

/-! ## Declarations -/

/-- The fields of a location. -/
def Location.fields : List (RecordField Location) := [
  ⟨"file", false, fun l v => (readOption readString v).map fun file => { l with file }⟩,
  ⟨"line", false, fun l v => (readWord32 v).map fun line => { l with line }⟩,
  ⟨"column", false, fun l v => (readWord32 v).map fun column => { l with column }⟩]

/-- A location inside a declaration. -/
def Location.ofValue (v : Value) : Except ShapeError Location :=
  readRecord "struct Location" Location.fields {} v

/-- A field of a struct. -/
def FieldDecl.ofValue (v : Value) : Except ShapeError FieldDecl :=
  readRecord "struct FieldDecl" [
    ⟨"name", true, fun d v => (readString v).map fun name => { d with name }⟩,
    ⟨"ty", true, fun d v => (TypeExpr.ofValue v).map fun type => { d with type }⟩] ⟨"", .unit⟩ v

/-- The content of a struct declaration. -/
def StructDecl.ofValue (v : Value) : Except ShapeError StructDecl :=
  readRecord "struct StructDecl" [
    ⟨"name", true, fun d v => (readString v).map fun name => { d with name }⟩,
    ⟨"fields", false, fun d v =>
      (readList FieldDecl.ofValue v).map fun fields => { d with fields }⟩,
    ⟨"location", false, fun d v =>
      (Location.ofValue v).map fun location => { d with location }⟩] ⟨"", [], {}⟩ v

/-- The shapes of a payload. -/
inductive PayloadDecl.Kind
  | unit
  | tuple
  | struct

/-- The shapes of a payload by their tags. -/
def PayloadDecl.kinds : List (String × PayloadDecl.Kind) :=
  [("unit", .unit), ("tuple", .tuple), ("struct", .struct)]

/-- The payload of a variant. -/
def PayloadDecl.ofValue (v : Value) : Except ShapeError PayloadDecl := do
  let tagged ← Tagged.split "PayloadDecl" "shape" v
  match ← readTag PayloadDecl.kinds tagged.tag with
  | .unit =>
    match tagged.content with
    | .array (i :: items) =>
      throw (.invalidLength (i :: items).length (counted 0 "element" ++ " in sequence"))
    | _ => pure .unit
  | .tuple =>
    (readRecord "struct variant PayloadDecl::Tuple" [
      ⟨"elems", true, fun _ v => readList TypeExpr.ofValue v⟩] [] tagged.content).map .tuple
  | .struct =>
    (readRecord "struct variant PayloadDecl::Struct" [
      ⟨"fields", true, fun _ v => readList FieldDecl.ofValue v⟩] [] tagged.content).map .struct

/-- A variant of an enum. -/
def VariantDecl.ofValue (v : Value) : Except ShapeError VariantDecl :=
  readRecord "struct VariantDecl" [
    ⟨"name", true, fun d v => (readString v).map fun name => { d with name }⟩,
    ⟨"payload", false, fun d v =>
      (PayloadDecl.ofValue v).map fun payload => { d with payload }⟩] ⟨"", .unit⟩ v

/-- The content of an enum declaration. -/
def EnumDecl.ofValue (v : Value) : Except ShapeError EnumDecl :=
  readRecord "struct EnumDecl" [
    ⟨"name", true, fun d v => (readString v).map fun name => { d with name }⟩,
    ⟨"variants", false, fun d v =>
      (readList VariantDecl.ofValue v).map fun variants => { d with variants }⟩,
    ⟨"location", false, fun d v =>
      (Location.ofValue v).map fun location => { d with location }⟩] ⟨"", [], {}⟩ v

/-- The receiver of a method. -/
def ReceiverDecl.ofValue (v : Value) : Except ShapeError ReceiverDecl :=
  readRecord "struct ReceiverDecl" [
    ⟨"type_name", true, fun d v => (readString v).map fun typeName => { d with typeName }⟩,
    ⟨"mode", true, fun d v =>
      (readUnitVariant [("ref", ReceiverMode.ref), ("value", .value)] v).map fun mode =>
        { d with mode }⟩] ⟨"", .ref⟩ v

/-- A parameter. -/
def ParamDecl.ofValue (v : Value) : Except ShapeError ParamDecl :=
  readRecord "struct ParamDecl" [
    ⟨"name", true, fun d v => (readString v).map fun name => { d with name }⟩,
    ⟨"ty", true, fun d v => (TypeExpr.ofValue v).map fun type => { d with type }⟩,
    ⟨"transfer", false, fun d v =>
      (readBool v).map fun transfer => { d with transfer }⟩] ⟨"", .unit, false⟩ v

/-- The content of a function declaration. -/
def FunctionDecl.ofValue (v : Value) : Except ShapeError FunctionDecl :=
  readRecord "struct FunctionDecl" [
    ⟨"name", true, fun d v => (readString v).map fun name => { d with name }⟩,
    ⟨"receiver", false, fun d v =>
      (readOption ReceiverDecl.ofValue v).map fun receiver => { d with receiver }⟩,
    ⟨"params", false, fun d v =>
      (readList ParamDecl.ofValue v).map fun params => { d with params }⟩,
    ⟨"returns", false, fun d v =>
      (TypeExpr.ofValue v).map fun returns => { d with returns }⟩,
    ⟨"location", false, fun d v =>
      (Location.ofValue v).map fun location => { d with location }⟩]
    ⟨"", none, [], .unit, {}⟩ v

/-- The content of a declaration of the kind that its tag names. -/
def Declaration.kinds : List (String × (Value → Except ShapeError Declaration)) := [
  ("struct", fun v => (StructDecl.ofValue v).map .struct),
  ("enum", fun v => (EnumDecl.ofValue v).map .enum),
  ("function", fun v => (FunctionDecl.ofValue v).map .function)]

/-! ## Documents -/

/-- The declaration at a path of a document. -/
def Declaration.ofValue (path : Path) (v : Value) : Except Located Declaration := do
  let tagged ← (Tagged.split "AnnotatedDecl" "kind" v).mapError (·.at_ path)
  let read ← (readName Declaration.kinds tagged.tag).mapError
    (·.at_ (path ++ [Tagged.step "kind" v]))
  (read tagged.content).mapError (·.at_ path)

/-- The declarations of a document: a list of them or a single one. -/
def readDeclarations : Value → Except Located (List Declaration)
  | .array items => items.zipIdx.mapM fun (v, i) => Declaration.ofValue [.index i] v
  | v => (Declaration.ofValue [] v).map fun d => [d]

/-- The type expression that a document consists of. -/
def readTypeExpr (v : Value) : Except Located TypeExpr := do
  let tagged ← (Tagged.split "TypeExpr" "kind" v).mapError (·.at_ [])
  let _ ← (readName TypeExpr.kinds tagged.tag).mapError (·.at_ [Tagged.step "kind" v])
  (TypeExpr.ofValue v).mapError (·.at_ [])

/-- The location that a document consists of. -/
def readLocation : Value → Except Located Location
  | .object members =>
    members.foldlM (fun l (key, v) =>
      match Location.fields.find? (·.name = key) with
      | some field => (field.set l v).mapError (·.at_ [.key key])
      | none => pure l) {}
  | .array items => do
    let l ← (items.zip Location.fields).zipIdx.foldlM (fun l ((v, field), i) =>
      (field.set l v).mapError (·.at_ [.index i])) {}
    if Location.fields.length < items.length then
      throw ((ShapeError.invalidLength items.length "fewer elements in array").at_ [])
    pure l
  | v => .error ((ShapeError.invalidType v.found "struct Location").at_ [])

end Boundary
