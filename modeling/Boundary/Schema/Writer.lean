import Boundary.Schema
import Boundary.Declaration.Writer

/-!
# Schemas as JSON

* `TypeRef.toValue`, `Schema.toValue`: the values. Items are keyed by their numbers.
-/

namespace Boundary

open Json

/-- A type as a value. -/
def TypeRef.toValue : TypeRef → Value
  | .unit => .object [("kind", .string "unit")]
  | .primitive p => .object [("kind", .string "primitive"), ("of", .string p.name)]
  | .str => .object [("kind", .string "str")]
  | .handle id => .object [("kind", .string "handle"), ("of", .ofNat id.index)]
  | .option inner => .object [("kind", .string "option"), ("of", inner.toValue)]
  | .result ok err =>
    .object [("kind", .string "result"), ("of", .array [ok.toValue, err.toValue])]
  | .unsupported reason => .object [("kind", .string "unsupported"), ("of", .string reason)]

/-- A field as a value. -/
def Field.toValue (f : Field) : Value := .object [("name", .string f.name), ("ty", f.type.toValue)]

/-- A struct as a value. -/
def ExportedStruct.toValue (s : ExportedStruct) : Value :=
  .object [("id", .ofNat s.id.index), ("name", .string s.name),
    ("fields", .ofList (·.toValue) s.fields), ("location", s.location.toValue)]

/-- A payload as a value. -/
def Payload.toValue : Payload → Value
  | .unit => .object [("shape", .string "unit")]
  | .tuple elems => .object [("shape", .string "tuple"), ("fields", .ofList (·.toValue) elems)]
  | .struct fields => .object [("shape", .string "struct"), ("fields", .ofList (·.toValue) fields)]

/-- A variant as a value. -/
def Variant.toValue (v : Variant) : Value :=
  .object [("name", .string v.name), ("discriminant", .ofNat v.discriminant),
    ("payload", v.payload.toValue)]

/-- An enum as a value. -/
def ExportedEnum.toValue (e : ExportedEnum) : Value :=
  .object [("id", .ofNat e.id.index), ("name", .string e.name),
    ("variants", .ofList (·.toValue) e.variants), ("location", e.location.toValue)]

/-- A receiver as a value. -/
def Receiver.toValue : Receiver → Value
  | .none => .object [("mode", .string "none")]
  | .byRef id => .object [("mode", .string "by_ref"), ("type", .ofNat id.index)]
  | .byValue id => .object [("mode", .string "by_value"), ("type", .ofNat id.index)]

/-- The name of a parameter mode. -/
def ParamMode.name : ParamMode → String
  | .borrowed => "borrowed"
  | .owned => "owned"
  | .transfer => "transfer"

/-- A parameter as a value. -/
def Param.toValue (p : Param) : Value :=
  .object [("name", .string p.name), ("ty", p.type.toValue), ("mode", .string p.mode.name)]

/-- A function as a value. -/
def ExportedFunction.toValue (f : ExportedFunction) : Value :=
  .object [("id", .ofNat f.id.index), ("name", .string f.name), ("receiver", f.receiver.toValue),
    ("params", .ofList (·.toValue) f.params), ("returns", f.returns.toValue),
    ("location", f.location.toValue)]

/-- The name of a kind of managed name. -/
def NameKind.name : NameKind → String
  | .struct => "struct"
  | .enum => "enum"
  | .function => "function"
  | .reserved => "reserved"

/-- An entry of the index as a value. -/
def NameEntry.toValue (e : NameEntry) : Value :=
  .object [("native_name", .string e.nativeName), ("kind", .string e.kind.name)]

/-- A schema as a value. -/
def Schema.toValue (s : Schema) : Value :=
  .object [
    ("structs", .object (s.structs.map fun d => (toString d.id.index, d.toValue))),
    ("enums", .object (s.enums.map fun e => (toString e.id.index, e.toValue))),
    ("functions", .object (s.functions.map fun f => (toString f.id.index, f.toValue))),
    ("names", .object (s.names.map fun (name, e) => (name, e.toValue)))]

end Boundary
