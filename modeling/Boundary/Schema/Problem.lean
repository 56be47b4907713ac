import Boundary.Diagnostic

/-!
# Problems of declarations

* `Problem`: what can be wrong with a declaration.
* `Problem.kind`, `Problem.message`: how it is reported.
* `Problem.diagnostic`: the report of a problem at a place.
-/

namespace Boundary

/-- What can be wrong with a declaration. -/
inductive Problem
  | notIdentifier (name : String)
  /-- The name starts like the names that are made up in generated code. -/
  | reservedIdentifier (name : String)
  | shadowsBuiltin (name : String)
  | duplicateType (name : String)
  | duplicateFunction (subject : String)
  /-- The managed name at the top level is that of support code. -/
  | reservedName (native managed : String)
  | reservedPrefix (native managed start : String)
  | sharedName (native other managed : String)
  /-- A member has the managed name of its enclosing type. -/
  | memberNamedAsOwner (native managed : String)
  | reservedMember (native managed : String)
  | sharedMember (native other managed : String)
  | emptyEnum (name : String)
  | unsupportedType (reason subject : String)
  | receiverNotExported (typeName : String)
  | transferNeedsStruct (type : String)
  | transferOfBorrowed (type : String)
  /-- The type holds itself, by way of the given types. -/
  | recursiveType (name : String) (cycle : List String)
  | sharedSymbol (symbol first second : String)
deriving Repr, DecidableEq

/-- The kind under which a problem is reported. -/
def Problem.kind : Problem → DiagnosticKind
  | .notIdentifier _ | .reservedIdentifier _ | .shadowsBuiltin _ => .invalidIdentifier
  | .duplicateType _ | .duplicateFunction _ => .duplicateDeclaration
  | .reservedName .. | .reservedPrefix .. | .sharedName .. => .nameCollision
  | .memberNamedAsOwner .. | .reservedMember .. | .sharedMember .. => .nameCollision
  | .sharedSymbol .. => .nameCollision
  | .emptyEnum _ => .emptyEnum
  | .unsupportedType .. | .recursiveType .. => .unsupportedType
  | .receiverNotExported _ => .invalidReceiver
  | .transferNeedsStruct _ | .transferOfBorrowed _ => .invalidTransfer

/-- The wording of a problem. -/
def Problem.message : Problem → String
  | .notIdentifier name => s!"`{name}` is not a valid identifier"
  | .reservedIdentifier name =>
    s!"`{name}`: names starting with `__` are reserved for generated code"
  | .shadowsBuiltin name => s!"`{name}` would shadow the built-in type of the same name"
  | .duplicateType name => s!"type `{name}` is declared more than once"
  | .duplicateFunction subject => s!"`{subject}` is declared more than once"
  | .reservedName native managed =>
    s!"`{native}` renders to `{managed}`, which is reserved for generated support code"
  | .reservedPrefix native managed start =>
    s!"`{native}` renders to `{managed}`; the `{start}` prefix is reserved "
      ++ "for generated support code"
  | .sharedName native other managed =>
    s!"`{native}` and `{other}` both render to managed name `{managed}`"
  | .memberNamedAsOwner native managed =>
    s!"`{native}` renders to `{managed}`, the name of its enclosing type"
  | .reservedMember native managed =>
    s!"`{native}` renders to `{managed}`, which generated code already uses here"
  | .sharedMember native other managed => s!"`{native}` and `{other}` both render to `{managed}`"
  | .emptyEnum name => s!"enum `{name}` has no variants, so no value of it can exist"
  | .unsupportedType reason subject => s!"{reason} (in `{subject}`)"
  | .receiverNotExported typeName => s!"receiver `{typeName}` is not an exported struct or enum"
  | .transferNeedsStruct type => s!"`transfer` needs a by-value exported struct, found `{type}`"
  | .transferOfBorrowed type => s!"`transfer` cannot apply to the borrowed `{type}`"
  | .recursiveType name cycle =>
    let path := " → ".intercalate cycle
    s!"recursive type `{name}` ({path}) has no finite boundary representation"
  | .sharedSymbol symbol first second =>
    s!"shim symbol `{symbol}` is generated for both `{first}` and `{second}`"

/-- The report of a problem. -/
def Problem.diagnostic (p : Problem) (location : Location) (subject : String) : Diagnostic :=
  ⟨p.kind, location, subject, p.message⟩

end Boundary
