import Boundary.Location
import Boundary.TypeExpr

/-!
# Declarations

The native items that are to be reachable from managed code, as they are declared.

* `Declaration`: a struct, an enum or a function.
* `Declaration.name`, `Declaration.location`: what they have in common.
-/

namespace Boundary

/-- A field with its declared type. -/
structure FieldDecl where
  name : String
  type : TypeExpr
deriving Repr, Inhabited

/-- A struct as declared. -/
structure StructDecl where
  name : String
  fields : List FieldDecl := []
  location : Location := {}
deriving Repr, Inhabited

/-- What a variant of an enum carries. -/
inductive PayloadDecl
  | unit
  | tuple (elems : List TypeExpr)
  | struct (fields : List FieldDecl)
deriving Repr, Inhabited

/-- A variant of an enum as declared. -/
structure VariantDecl where
  name : String
  payload : PayloadDecl := .unit
deriving Repr, Inhabited

/-- An enum as declared. -/
structure EnumDecl where
  name : String
  variants : List VariantDecl := []
  location : Location := {}
deriving Repr, Inhabited

/-- How a method takes the value that it is called on. -/
inductive ReceiverMode
  /-- The value is lent for the call. -/
  | ref
  /-- The value is given away. -/
  | value
deriving Repr, DecidableEq, Inhabited

/-- The receiver of a method as declared. -/
structure ReceiverDecl where
  typeName : String
  mode : ReceiverMode
deriving Repr, Inhabited

/-- A parameter as declared. -/
structure ParamDecl where
  name : String
  type : TypeExpr
  /-- Whether the ownership of the argument moves into native code. -/
  transfer : Bool := false
deriving Repr, Inhabited

/-- A function or method as declared. -/
structure FunctionDecl where
  name : String
  receiver : Option ReceiverDecl := none
  params : List ParamDecl := []
  returns : TypeExpr := .unit
  location : Location := {}
deriving Repr, Inhabited

/-- A declaration. -/
inductive Declaration
  | struct (decl : StructDecl)
  | enum (decl : EnumDecl)
  | function (decl : FunctionDecl)
deriving Repr, Inhabited

/-- The declared name. -/
def Declaration.name : Declaration → String
  | .struct d => d.name
  | .enum d => d.name
  | .function d => d.name

/-- Where the declaration stands. -/
def Declaration.location : Declaration → Location
  | .struct d => d.location
  | .enum d => d.location
  | .function d => d.location

end Boundary
