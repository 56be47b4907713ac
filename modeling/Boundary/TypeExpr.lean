/-!
# Type expressions

* `TypeExpr`: a native type as it is written at a declaration.
* `TypeExpr.display`: its native spelling.
-/

namespace Boundary

/-- A native type as it is written at a declaration. -/
inductive TypeExpr
  | path (name : String) (args : List TypeExpr)
  | ref (isMutable : Bool) (inner : TypeExpr)
  | ptr (isMutable : Bool) (inner : TypeExpr)
  | tuple (elems : List TypeExpr)
  | slice (inner : TypeExpr)
  | array (inner : TypeExpr) (length : Nat)
  | generic (name : String)
  | traitObject (bound : String)
deriving Repr, Inhabited

/-- The type `()` of no value. -/
def TypeExpr.unit : TypeExpr := .tuple []

/-- Whether the expression is the type of no value. -/
def TypeExpr.isUnit : TypeExpr → Bool
  | .tuple [] => true
  | _ => false

mutual

/-- The native spelling of a type expression. -/
def TypeExpr.display : TypeExpr → String
  | .path name [] => name
  | .path name (a :: as) => name ++ "<" ++ ", ".intercalate (displayAll (a :: as)) ++ ">"
  | .ref isMutable inner => (if isMutable then "&mut " else "&") ++ inner.display
  | .ptr isMutable inner => (if isMutable then "*mut " else "*const ") ++ inner.display
  | .tuple [t] => "(" ++ t.display ++ ",)"
  | .tuple ts => "(" ++ ", ".intercalate (displayAll ts) ++ ")"
  | .slice inner => "[" ++ inner.display ++ "]"
  | .array inner length => "[" ++ inner.display ++ "; " ++ toString length ++ "]"
  | .generic name => name
  | .traitObject bound => "dyn " ++ bound

/-- The native spellings of type expressions. -/
def displayAll : List TypeExpr → List String
  | [] => []
  | t :: ts => t.display :: displayAll ts

end

end Boundary
