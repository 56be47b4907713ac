import Boundary.Schema
import Boundary.Wire.Reader

/-!
# Values as bytes

Values of boundary types have a serialized form. Structs and enums have one too, although they
cross the boundary by handle: the fields in declared order, for an enum behind the discriminant.

* `Datum`: a value.
* `Datum.items`, `Datum.encode`: the serialized form of a value of a boundary type.
* `TypeRef.read`, `TypeRef.decode`: the value of a serialized form.
* `Schema.encode`, `Schema.decode`: the same for whatever a `Target` is.
* `Schema.target`: what a type name stands for.
-/

namespace Boundary

/-- A value that is serialized, as its type is found at run time. -/
inductive Datum
  | unit
  | primitive (v : PrimitiveValue)
  | str (s : String)
  | handle (h : UInt64)
  | option (value : Option Datum)
  /-- The fields of a struct in declared order. -/
  | record (fields : List Datum)
  | variant (discriminant : UInt32) (fields : List Datum)
deriving Repr, Inhabited

/-- What a value is called in messages. -/
def Datum.kind : Datum → String
  | .unit => "unit"
  | .primitive v => v.type.name
  | .str _ => "string"
  | .handle _ => "handle"
  | .option _ => "option"
  | .record _ => "record"
  | .variant _ _ => "variant"

/-- Why a value has no serialized form of some type, or bytes are none. -/
inductive DatumError
  | mismatch (expected found : String)
  | resultNotEncodable
  | unknownType (id : TypeId)
  | unknownTypeName (name : String)
  | unknownDiscriminant (enum : String) (discriminant : UInt32)
  | fieldCount (subject : String) (expected found : Nat)
  | wire (error : WireError)
deriving Repr, DecidableEq, Inhabited

/-- The wording of a `DatumError`. -/
def DatumError.message : DatumError → String
  | .mismatch expected found => s!"expected a value of type {expected}, found {found}"
  | .resultNotEncodable => "`Result` values never cross as bytes"
  | .unknownType id => s!"no exported type with id {id.display}"
  | .unknownTypeName name => s!"`{name}` is not an exported type, a primitive or `String`"
  | .unknownDiscriminant enum discriminant =>
    s!"`{enum}` has no variant with discriminant {discriminant}"
  | .fieldCount subject expected found => s!"`{subject}` has {expected} field(s), got {found}"
  | .wire e => e.message

/-! ## Boundary types -/

/-- The items of a value as a value of a `TypeRef`. -/
def Datum.items : TypeRef → Datum → Except DatumError (List Wire.Item)
  | .unit, .unit => .ok []
  | .primitive p, .primitive v =>
    if v.type = p then .ok [.primitive v]
    else .error (.mismatch (TypeRef.primitive p).debug v.type.name)
  | .str, .str s =>
    if s.utf8ByteSize < Wire.textLimit then .ok [.str s]
    else .error (.wire (.textTooLong s.utf8ByteSize))
  | .handle _, .handle h => .ok [.handle h]
  | .option _, .option none => .ok [.presence false]
  | .option inner, .option (some d) => do
    let items ← Datum.items inner d
    pure (.presence true :: items)
  | .result _ _, _ => .error .resultNotEncodable
  | t, d => .error (.mismatch t.debug d.kind)

/-- The serialized form of the value `d` as a value of the type `t`. -/
def Datum.encode (t : TypeRef) (d : Datum) : Except DatumError (List UInt8) :=
  (d.items t).map Wire.write

/-- What reads values, with the errors of `DatumError`. -/
abbrev DatumReader := Wire.ReaderOf DatumError

/-- The reader `r` of items as a reader of values. -/
def DatumReader.lift {α : Type} (r : Wire.Reader α) : DatumReader α := r.adapt .wire

/-- Reads a value of a `TypeRef`. -/
def TypeRef.read : TypeRef → DatumReader Datum
  | .unit => pure .unit
  | .primitive p => do
    let v ← DatumReader.lift (Wire.readPrimitive p)
    pure (.primitive v)
  | .str => do
    let s ← DatumReader.lift Wire.readText
    pure (.str s)
  | .handle _ => do
    let h ← DatumReader.lift Wire.readHandle
    pure (.handle h)
  | .option inner => do
    if ← DatumReader.lift Wire.readPresence then
      let d ← inner.read
      pure (.option (some d))
    else pure (.option none)
  | .result _ _ => throw .resultNotEncodable
  | .unsupported reason => throw (.mismatch reason "bytes")

/-- The value that `r` finds in `bytes`, of which nothing may be left. -/
def DatumReader.decode (r : DatumReader Datum) (bytes : List UInt8) : Except DatumError Datum :=
  let whole : DatumReader Datum := do
    let d ← r
    DatumReader.lift Wire.finish
    pure d
  (whole.run bytes).1

/-- The value of the type `t` with the serialized form `bytes`. -/
def TypeRef.decode (t : TypeRef) (bytes : List UInt8) : Except DatumError Datum :=
  DatumReader.decode t.read bytes

/-! ## Structs and enums -/

/-- The items of values of the given types, as far as both lists go. -/
def fieldItems : List TypeRef → List Datum → Except DatumError (List Wire.Item)
  | t :: ts, d :: ds => do
    let first ← d.items t
    let rest ← fieldItems ts ds
    pure (first ++ rest)
  | _, _ => .ok []

/-- The items of `fields`, which must be as many as `types`; the value is called `subject` in
messages. -/
def countedItems (subject : String) (types : List TypeRef) (fields : List Datum) :
    Except DatumError (List Wire.Item) :=
  if types.length = fields.length then fieldItems types fields
  else .error (.fieldCount subject types.length fields.length)

/-- Values of the given types. -/
def readFields : List TypeRef → DatumReader (List Datum)
  | [] => pure []
  | t :: ts => do
    let d ← t.read
    let ds ← readFields ts
    pure (d :: ds)

/-- The items of a value of the struct `s`. -/
def ExportedStruct.items (s : ExportedStruct) : Datum → Except DatumError (List Wire.Item)
  | .record fields => countedItems s.name (s.fields.map (·.type)) fields
  | d => .error (.mismatch s.name d.kind)

/-- Reads a value of the struct `s`. -/
def ExportedStruct.read (s : ExportedStruct) : DatumReader Datum := do
  let fields ← readFields (s.fields.map (·.type))
  pure (.record fields)

/-- The types of the fields of a variant. -/
def Variant.types (v : Variant) : List TypeRef := v.payload.fields.map (·.type)

/-- The items of a value of the enum `e`. -/
def ExportedEnum.items (e : ExportedEnum) : Datum → Except DatumError (List Wire.Item)
  | .variant discriminant fields =>
    match e.variant? discriminant.toNat with
    | none => .error (.unknownDiscriminant e.name discriminant)
    | some v => do
      let items ← countedItems s!"{e.name}::{v.name}" v.types fields
      pure (.primitive (.u32 discriminant) :: items)
  | d => .error (.mismatch e.name d.kind)

/-- Reads the fields of the variant with the discriminant `w`. -/
def ExportedEnum.readVariant (e : ExportedEnum) (w : Nat) : DatumReader Datum :=
  match e.variant? w with
  | none => throw (.unknownDiscriminant e.name (UInt32.ofNat w))
  | some v => do
    let fields ← readFields v.types
    pure (.variant (UInt32.ofNat w) fields)

/-- Reads a value of the enum `e`. -/
def ExportedEnum.read (e : ExportedEnum) : DatumReader Datum := do
  let w ← DatumReader.lift (Wire.readWord 4)
  e.readVariant w

/-! ## Targets -/

/-- What a value is encoded as. -/
inductive Target
  | boundary (type : TypeRef)
  | record (id : TypeId)
  | variant (id : TypeId)
deriving Repr, DecidableEq

/-- What the type name `name` stands for: an exported struct or enum, text, or a primitive type. -/
def Schema.target (s : Schema) (name : String) : Except DatumError Target :=
  match s.structs.find? (·.name = name) with
  | some d => .ok (.record d.id)
  | none =>
    match s.enums.find? (·.name = name) with
    | some e => .ok (.variant e.id)
    | none =>
      if name = "String" || name = "str" then .ok (.boundary .str)
      else
        match Primitive.ofName? name with
        | some p => .ok (.boundary (.primitive p))
        | none => .error (.unknownTypeName name)

/-- The items of the value `d` as a `Target`. -/
def Schema.items (s : Schema) (t : Target) (d : Datum) : Except DatumError (List Wire.Item) :=
  match t with
  | .boundary type => d.items type
  | .record id =>
    match s.struct? id with
    | some def_ => def_.items d
    | none => .error (.unknownType id)
  | .variant id =>
    match s.enum? id with
    | some def_ => def_.items d
    | none => .error (.unknownType id)

/-- The serialized form of the value `d` as a `Target`. -/
def Schema.encode (s : Schema) (t : Target) (d : Datum) : Except DatumError (List UInt8) :=
  (s.items t d).map Wire.write

/-- Reads a value of a `Target`. -/
def Schema.read (s : Schema) : Target → DatumReader Datum
  | .boundary type => type.read
  | .record id =>
    match s.struct? id with
    | some def_ => def_.read
    | none => throw (.unknownType id)
  | .variant id =>
    match s.enum? id with
    | some def_ => def_.read
    | none => throw (.unknownType id)

/-- The value of a `Target` with the serialized form `bytes`. -/
def Schema.decode (s : Schema) (t : Target) (bytes : List UInt8) : Except DatumError Datum :=
  DatumReader.decode (s.read t) bytes

/-- The serialized form of the value `d` as a value of the type `name`. -/
def Schema.encodeNamed (s : Schema) (name : String) (d : Datum) :
    Except DatumError (List UInt8) := do
  s.encode (← s.target name) d

/-- The value of the type `name` with the serialized form `bytes`. -/
def Schema.decodeNamed (s : Schema) (name : String) (bytes : List UInt8) :
    Except DatumError Datum := do
  s.decode (← s.target name) bytes

end Boundary
