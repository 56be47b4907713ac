import Boundary.Primitive
import Boundary.Text.Quoted

/-!
# Boundary types

* `TypeRef`: a resolved type, without any expression left in it.
* `TypeRef.isSupported`: no part of it is refused.
* `TypeRef.success`, `TypeRef.error?`: the two sides of a result.
* `TypeRef.handles`: the exported types that it mentions.
* `TypeRef.debug`: its text in messages about values.
-/

namespace Boundary

/-- The number of an exported struct or enum. -/
structure TypeId where
  index : Nat
deriving Repr, DecidableEq, Inhabited

/-- The text of the number of a type. -/
def TypeId.display (id : TypeId) : String := s!"#{id.index}"

/-- A resolved type. -/
inductive TypeRef
  /-- No value: what a function without result returns, or one side of a result. -/
  | unit
  | primitive (p : Primitive)
  | str
  | handle (id : TypeId)
  | option (inner : TypeRef)
  | result (ok err : TypeRef)
  /-- A type that cannot cross the boundary, and why. -/
  | unsupported (reason : String)
deriving Repr, DecidableEq, Inhabited

/-- Whether no part of the type is refused. -/
def TypeRef.isSupported : TypeRef → Bool
  | .unsupported _ => false
  | .option inner => inner.isSupported
  | .result ok err => ok.isSupported && err.isSupported
  | _ => true

/-- The type of a successful outcome. -/
def TypeRef.success : TypeRef → TypeRef
  | .result ok _ => ok
  | t => t

/-- The type of a failed outcome. -/
def TypeRef.error? : TypeRef → Option TypeRef
  | .result _ err => some err
  | _ => none

/-- The exported types that the type mentions, in order. -/
def TypeRef.handles : TypeRef → List TypeId
  | .handle id => [id]
  | .option inner => inner.handles
  | .result ok err => ok.handles ++ err.handles
  | _ => []

/-- The text of the type in messages about values. -/
def TypeRef.debug : TypeRef → String
  | .unit => "Unit"
  | .primitive p => s!"Primitive({p.word})"
  | .str => "Str"
  | .handle id => s!"Handle(TypeId({id.index}))"
  | .option inner => s!"Option({inner.debug})"
  | .result ok err => s!"Result({ok.debug}, {err.debug})"
  | .unsupported reason => s!"Unsupported({Text.quoted reason})"

end Boundary
