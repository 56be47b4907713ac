import Boundary.Declaration
import Boundary.Json.Value

/-!
# Declarations as JSON

* `TypeExpr.toValue`, `Location.toValue`, `Declaration.toValue`: the values with every default
  written out.
-/

namespace Boundary

open Json

/-- A location as a value. -/
def Location.toValue (l : Location) : Value :=
  .object [("file", .ofOption .string l.file), ("line", .ofNat l.line.toNat),
    ("column", .ofNat l.column.toNat)]

mutual

/-- A type expression as a value. -/
def TypeExpr.toValue : TypeExpr → Value
  | .path name args =>
    .object [("kind", .string "path"), ("name", .string name), ("args", .array (toValues args))]
  | .ref isMutable inner =>
    .object [("kind", .string "ref"), ("mutable", .bool isMutable), ("inner", inner.toValue)]
  | .ptr isMutable inner =>
    .object [("kind", .string "ptr"), ("mutable", .bool isMutable), ("inner", inner.toValue)]
  | .tuple elems => .object [("kind", .string "tuple"), ("elems", .array (toValues elems))]
  | .slice inner => .object [("kind", .string "slice"), ("inner", inner.toValue)]
  | .array inner length =>
    .object [("kind", .string "array"), ("inner", inner.toValue), ("len", .ofNat length)]
  | .generic name => .object [("kind", .string "generic"), ("name", .string name)]
  | .traitObject bound => .object [("kind", .string "trait_object"), ("bound", .string bound)]

/-- Type expressions as values. -/
def toValues : List TypeExpr → List Value
  | [] => []
  | t :: ts => t.toValue :: toValues ts

end

/-- A field as a value. -/
def FieldDecl.toValue (f : FieldDecl) : Value :=
  .object [("name", .string f.name), ("ty", f.type.toValue)]

/-- A payload as a value. -/
def PayloadDecl.toValue : PayloadDecl → Value
  | .unit => .object [("shape", .string "unit")]
  | .tuple elems => .object [("shape", .string "tuple"), ("elems", .ofList (·.toValue) elems)]
  | .struct fields => .object [("shape", .string "struct"), ("fields", .ofList (·.toValue) fields)]

/-- A variant as a value. -/
def VariantDecl.toValue (v : VariantDecl) : Value :=
  .object [("name", .string v.name), ("payload", v.payload.toValue)]

/-- The name of a receiver mode. -/
def ReceiverMode.name : ReceiverMode → String
  | .ref => "ref"
  | .value => "value"

/-- A receiver as a value. -/
def ReceiverDecl.toValue (r : ReceiverDecl) : Value :=
  .object [("type_name", .string r.typeName), ("mode", .string r.mode.name)]

/-- A parameter as a value. -/
def ParamDecl.toValue (p : ParamDecl) : Value :=
  .object [("name", .string p.name), ("ty", p.type.toValue), ("transfer", .bool p.transfer)]

/-- A declaration as a value. -/
def Declaration.toValue : Declaration → Value
  | .struct d =>
    .object [("kind", .string "struct"), ("name", .string d.name),
      ("fields", .ofList (·.toValue) d.fields), ("location", d.location.toValue)]
  | .enum d =>
    .object [("kind", .string "enum"), ("name", .string d.name),
      ("variants", .ofList (·.toValue) d.variants), ("location", d.location.toValue)]
  | .function d =>
    .object [("kind", .string "function"), ("name", .string d.name),
      ("receiver", .ofOption (·.toValue) d.receiver), ("params", .ofList (·.toValue) d.params),
      ("returns", d.returns.toValue), ("location", d.location.toValue)]

end Boundary
