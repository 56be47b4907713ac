import Boundary.Naming
import Boundary.TypeExpr
import Boundary.TypeRef

/-!
# Resolution of type expressions

What a type expression means depends on the expression, on the position in which it stands and on
the table of exported types, and on nothing else.

* `TypePosition`: where an expression stands.
* `TypeTable`: the exported types by name.
* `Refusal`: why an expression has no boundary type.
* `TypeExpr.resolve`: the boundary type of an expression.
* `TypeExpr.paramMode`: how an argument of that type is handed over.
-/

namespace Boundary

/-- Where a type expression stands. -/
inductive TypePosition
  | field
  | param
  | return_
  | resultOk
  | resultErr
  | optionInner
deriving Repr, DecidableEq

/-- Whether a position may hold no value at all. -/
def TypePosition.allowsUnit : TypePosition → Bool
  | .return_ | .resultOk | .resultErr => true
  | _ => false

/-- The exported types by name. -/
abbrev TypeTable := List (String × TypeId)

/-- Generic types of the native library that hold other values. -/
def knownContainers : List String := [
  "Vec", "VecDeque", "HashMap", "BTreeMap", "HashSet", "BTreeSet", "Box", "Rc", "Arc",
  "RefCell", "Cell", "Mutex", "RwLock", "Cow", "PhantomData"]

/-- The names whose meaning is fixed besides those of the primitive types. -/
def fixedTypeNames : List String := ["String", "str", "Option", "Result", "usize", "isize", "char"]

/-- Whether the meaning of the type name `name` is fixed. -/
def isBuiltinTypeName (name : String) : Bool :=
  (Primitive.ofName? name).isSome || fixedTypeNames.contains name

/-- Why a `TypeExpr` has no boundary type. -/
inductive Refusal
  | mutableReference
  | misplacedUnit
  | tuple
  | rawPointer
  | slice
  | generic (name : String)
  | traitObject
  | misplacedReference
  | referent
  | nestedOption
  | resultInOption
  | misplacedResult
  | arity
  | unsizedText
  | platformWidth
  | character
  | genericExport
  | container
  | notExported
deriving Repr, DecidableEq

/-- The wording of a `Refusal`. -/
def Refusal.message : Refusal → String
  | .mutableReference => "mutable references would give native code shared mutable access"
  | .misplacedUnit => "`()` is only supported as a return type"
  | .tuple => "tuples have no boundary representation"
  | .rawPointer => "raw pointers cannot be marshalled safely"
  | .slice => "slices and arrays are not supported"
  | .generic name => s!"generic parameter `{name}` has no fixed layout"
  | .traitObject => "trait objects are not supported"
  | .misplacedReference => "references are only supported as top-level parameters"
  | .referent => "only `&str` and references to exported types are supported"
  | .nestedOption => "nested `Option` is not supported; optionality is a single presence tag"
  | .resultInOption => "`Result` nested inside `Option` is not supported"
  | .misplacedResult => "`Result` is only supported as a function return type"
  | .arity => "unexpected number of type arguments"
  | .unsizedText => "unsized `str` must be passed as `&str`"
  | .platformWidth => "platform-width integers have no fixed boundary width"
  | .character => "`char` is not supported; use `u32` or `String`"
  | .genericExport => "generic exported types are not supported"
  | .container => "containers are not supported across the boundary"
  | .notExported => "not an exported type"

/-- The refusal of the expression `e` as a type. -/
def TypeExpr.refuse (e : TypeExpr) (r : Refusal) : TypeRef :=
  .unsupported s!"`{e.display}`: {r.message}"

/-- The type of a path without type arguments, by its segment `last`. -/
def resolveName (exported : TypeTable) (e : TypeExpr) (last : String) : TypeRef :=
  match Primitive.ofName? last with
  | some p => .primitive p
  | none =>
    if last = "Option" || last = "Result" then e.refuse .arity
    else if last = "String" then .str
    else if last = "str" then e.refuse .unsizedText
    else if last = "usize" || last = "isize" then e.refuse .platformWidth
    else if last = "char" then e.refuse .character
    else
      match exported.lookup last with
      | some id => .handle id
      | none => e.refuse (if knownContainers.contains last then .container else .notExported)

/-- A path with type arguments that is neither an `Option` of one nor a `Result` of two. -/
def resolveGeneric (exported : TypeTable) (e : TypeExpr) (last : String) : TypeRef :=
  if last = "Option" || last = "Result" then e.refuse .arity
  else if (exported.lookup last).isSome then e.refuse .genericExport
  else e.refuse (if knownContainers.contains last then .container else .notExported)

/-- An `Option` whose inner type is resolved. -/
def resolveOption (e : TypeExpr) (inner : TypeRef) : TypeRef :=
  match inner with
  | .unsupported reason => .unsupported reason
  | .option _ => e.refuse .nestedOption
  | inner => .option inner

/-- A `Result` whose two sides are resolved, the one for success first. -/
def resolveResult (e : TypeExpr) (position : TypePosition) (ok err : TypeRef) : TypeRef :=
  if position = .optionInner then e.refuse .resultInOption
  else if position ≠ .return_ then e.refuse .misplacedResult
  else if !ok.isSupported then ok
  else if !err.isSupported then err
  else .result ok err

/-- Whether a reference to the expression may be a parameter, as a reference to text. -/
def TypeExpr.isText : TypeExpr → Bool
  | .path name [] => Naming.lastSegment name = "str"
  | _ => false

/-- Whether an expression is a path to one of the types `exported`. -/
def TypeExpr.isExported (exported : TypeTable) : TypeExpr → Bool
  | .path name _ => (exported.lookup (Naming.lastSegment name)).isSome
  | _ => false

/-- The boundary type of an expression at a `TypePosition`. -/
def TypeExpr.resolve (exported : TypeTable) : (position : TypePosition) → TypeExpr → TypeRef
  | _, .path name [] => resolveName exported (.path name []) (Naming.lastSegment name)
  | _, .path name [arg] =>
    if Naming.lastSegment name = "Option" then
      resolveOption (.path name [arg]) (arg.resolve exported .optionInner)
    else resolveGeneric exported (.path name [arg]) (Naming.lastSegment name)
  | position, .path name [ok, err] =>
    if Naming.lastSegment name = "Result" then
      resolveResult (.path name [ok, err]) position (ok.resolve exported .resultOk)
        (err.resolve exported .resultErr)
    else resolveGeneric exported (.path name [ok, err]) (Naming.lastSegment name)
  | _, .path name args => resolveGeneric exported (.path name args) (Naming.lastSegment name)
  | _, .ref true inner => TypeExpr.refuse (.ref true inner) .mutableReference
  | position, .ref false inner =>
    if position ≠ .param then TypeExpr.refuse (.ref false inner) .misplacedReference
    else if inner.isText then .str
    else if inner.isExported exported then inner.resolve exported position
    else TypeExpr.refuse (.ref false inner) .referent
  | position, .tuple [] =>
    if position.allowsUnit then .unit else TypeExpr.refuse (.tuple []) .misplacedUnit
  | _, .tuple elems => TypeExpr.refuse (.tuple elems) .tuple
  | _, .ptr isMutable inner => TypeExpr.refuse (.ptr isMutable inner) .rawPointer
  | _, .slice inner => TypeExpr.refuse (.slice inner) .slice
  | _, .array inner length => TypeExpr.refuse (.array inner length) .slice
  | _, .generic name => TypeExpr.refuse (.generic name) (.generic name)
  | _, .traitObject bound => TypeExpr.refuse (.traitObject bound) .traitObject

/-- How an argument is handed to native code. -/
inductive ParamMode
  /-- Lent for the duration of the call. -/
  | borrowed
  /-- Native code gets a copy of its own, and the caller keeps the value. -/
  | owned
  /-- The handle of the caller is consumed. -/
  | transfer
deriving Repr, DecidableEq, Inhabited

/-- How an argument of the type of an expression is handed over; `transfer` says whether its
ownership moves. -/
def TypeExpr.paramMode (transfer : Bool) : TypeExpr → ParamMode
  | .ref _ _ => .borrowed
  | _ => if transfer then .transfer else .owned

end Boundary
