import Boundary.Schema.Names

/-!
# Registered declarations

A declaration takes part in a schema if its name is usable, does not hide a built-in type, and has
not been declared before. Types and functions are numbered in the order of their declarations.

* `TypeDecl`: a struct or an enum as declared.
* `Declaration.refusal?`: why a declaration takes no part.
* `Registry.ofDeclarations`: the types and functions that take part.
* `Registry.table`: the numbers of the types by name.
-/

namespace Boundary

/-- A struct or an enum as declared. -/
inductive TypeDecl
  | struct (decl : StructDecl)
  | enum (decl : EnumDecl)
deriving Inhabited

/-- The name of a `TypeDecl`. -/
def TypeDecl.name : TypeDecl → String
  | .struct d => d.name
  | .enum d => d.name

/-- Whether a `TypeDecl` is a struct. -/
def TypeDecl.isStruct : TypeDecl → Bool
  | .struct _ => true
  | .enum _ => false

/-- The type that is declared. -/
def Declaration.type? : Declaration → Option TypeDecl
  | .struct d => some (.struct d)
  | .enum d => some (.enum d)
  | .function _ => none

/-- The function that is declared. -/
def Declaration.function? : Declaration → Option FunctionDecl
  | .function d => some d
  | _ => none

/-- The type that the function `f` is called on, by name. -/
def FunctionDecl.owner? (f : FunctionDecl) : Option String :=
  f.receiver.map fun r => Naming.lastSegment r.typeName

/-- How the function `f` is called in messages. -/
def FunctionDecl.subject (f : FunctionDecl) : String := qualified f.owner? f.name

/-- Whether `f` and `g` have the same name and are called on the same type. -/
def FunctionDecl.sameAs (f g : FunctionDecl) : Bool := f.owner? = g.owner? && f.name = g.name

/-- Why a declaration takes no part, where `earlier` is declared before it. The subject comes
first. -/
def Declaration.refusal? (earlier : List Declaration) (d : Declaration) :
    Option (String × Problem) :=
  match identifierProblem? d.name with
  | some p => some (d.name, p)
  | none =>
    match d with
    | .function f =>
      if (earlier.filterMap Declaration.function?).any f.sameAs then
        some (f.subject, .duplicateFunction f.subject)
      else none
    | d =>
      if isBuiltinTypeName d.name then some (d.name, .shadowsBuiltin d.name)
      else if (earlier.filterMap Declaration.type?).any (·.name = d.name) then
        some (d.name, .duplicateType d.name)
      else none

/-- The declarations of `ds` that take part, which are those without a `refusal?`. -/
def registered (ds : List Declaration) : List Declaration :=
  (withEarlier [] ds).filterMap fun (earlier, d) =>
    if (d.refusal? earlier).isNone then some d else none

/-- The types and functions that take part, in the order of their numbers. -/
structure Registry where
  types : List TypeDecl
  functions : List FunctionDecl

/-- The types and functions among the declarations `ds`, which all take part. -/
def Registry.ofRegistered (ds : List Declaration) : Registry :=
  ⟨ds.filterMap Declaration.type?, ds.filterMap Declaration.function?⟩

/-- The registry of the declarations `ds`. -/
def Registry.ofDeclarations (ds : List Declaration) : Registry := .ofRegistered (registered ds)

/-- The numbers of the types by name. -/
def Registry.table (r : Registry) : TypeTable := r.types.zipIdx.map fun (t, i) => (t.name, ⟨i⟩)

/-- The type with the number `id`. -/
def Registry.type? (r : Registry) (id : TypeId) : Option TypeDecl := r.types[id.index]?

/-- Whether `id` is the number of a struct. -/
def Registry.isStruct (r : Registry) (id : TypeId) : Bool := (r.type? id).any TypeDecl.isStruct

/-! ## Names at the top level -/

/-- The names that an enum asks for: one for its class and one for its interface. -/
def interfaceName (managed : String) : String := "I" ++ managed

/-- The names at the top level that a declaration asks for. -/
def Declaration.topClaims : Declaration → List TopClaim
  | .struct d => [⟨Naming.pascal d.name, d.name, .struct⟩]
  | .enum d =>
    [⟨Naming.pascal d.name, d.name, .enum⟩, ⟨interfaceName (Naming.pascal d.name), d.name, .enum⟩]
  | .function d =>
    if d.receiver.isNone then [⟨Naming.pascal d.name, d.name, .function⟩] else []

/-! ## Names of members -/

/-- The name that a member `name` asks for; one of an unusable name asks for none. -/
def memberClaim? (name : String) : Option NameClaim :=
  if isUsableName name then some ⟨Naming.pascal name, name⟩ else none

/-- The names that the fields or variants of a `TypeDecl` ask for. -/
def TypeDecl.memberClaims : TypeDecl → List NameClaim
  | .struct d => d.fields.filterMap fun f => memberClaim? f.name
  | .enum d => d.variants.filterMap fun v => memberClaim? v.name

/-- The scope of the members of a `TypeDecl`. -/
def TypeDecl.scope : TypeDecl → Scope
  | .struct d => .type (Naming.pascal d.name)
  | .enum d => .enum (Naming.pascal d.name)

/-- The name that the function `f` asks for in its class. -/
def FunctionDecl.claim (f : FunctionDecl) : NameClaim := ⟨Naming.pascal f.name, f.name⟩

end Boundary
