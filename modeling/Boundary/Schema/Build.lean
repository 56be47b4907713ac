import Boundary.Schema.Content
import Boundary.Schema.Recursion
import Boundary.Schema.Symbols

/-!
# Building schemas

A list of declarations is accepted if nothing at all is wrong with it; otherwise everything that
is wrong is reported, in the order of the declarations.

* `Declaration.report`: what is wrong with one declaration among the others.
* `Schema.report`: what is wrong with a list of declarations.
* `Schema.build`: the schema of a list of declarations, or the report.
* `build_eq_ok_iff`: a list of declarations is accepted exactly if its report is empty.
-/

namespace Boundary

/-- What the declarations of one list have in common. -/
structure Surroundings where
  facade : String
  registry : Registry
  schema : Schema
  /-- The symbols that are used twice. -/
  symbolConflicts : List (SymbolUse × Problem)

/-- The numbers of the types of `registry` by name. -/
def Surroundings.table (s : Surroundings) : TypeTable := s.registry.table

/-! ## Parts of declarations -/

/-- The diagnostic that the type `t` cannot cross the boundary, if it is refused. -/
def typeReport (location : Location) (subject : String) (t : TypeRef) : Report :=
  match t with
  | .unsupported reason => [(Problem.unsupportedType reason subject).diagnostic location subject]
  | _ => []

/-- The diagnostic for a `problem` with a name, if there is one. -/
def conflictReport (location : Location) (subject : String) (problem : Option Problem) : Report :=
  problem.toList.map (·.diagnostic location subject)

/-- What is wrong with a part that has a name: the name itself, or else what `rest` finds. -/
def namedReport (location : Location) (subject name : String) (rest : Report) : Report :=
  match identifierProblem? name with
  | some p => [p.diagnostic location subject]
  | none => rest

/-- What is wrong with fields that belong to `owner` in messages. -/
def fieldsReport (table : TypeTable) (scope : Scope) (location : Location) (owner : String)
    (fields : List FieldDecl) : Report :=
  (withEarlier [] fields).flatMap fun (earlier, f) =>
    let subject := s!"{owner}.{f.name}"
    namedReport location subject f.name
      (conflictReport location subject
          (scope.conflict? (earlier.filterMap fun e => memberClaim? e.name)
            ⟨Naming.pascal f.name, f.name⟩)
        ++ typeReport location subject (f.type.resolve table .field))

/-- What is wrong with the payload of `variant`. -/
def PayloadDecl.report (table : TypeTable) (location : Location) (variant subject : String) :
    PayloadDecl → Report
  | .unit => []
  | .tuple elems =>
    elems.zipIdx.flatMap fun (t, i) =>
      typeReport location s!"{subject}.{i}" (t.resolve table .field)
  | .struct fields =>
    fieldsReport table (.type (Naming.pascal variant)) location subject fields

/-- What is wrong with the variants of the enum `d`. -/
def EnumDecl.variantsReport (table : TypeTable) (d : EnumDecl) : Report :=
  (withEarlier [] d.variants).flatMap fun (earlier, v) =>
    let subject := s!"{d.name}::{v.name}"
    namedReport d.location subject v.name
      (conflictReport d.location subject
          ((TypeDecl.enum d).scope.conflict? (earlier.filterMap fun e => memberClaim? e.name)
            ⟨Naming.pascal v.name, v.name⟩)
        ++ v.payload.report table d.location v.name subject)

/-- What is wrong with the content of a `TypeDecl`. -/
def TypeDecl.contentReport (table : TypeTable) : TypeDecl → Report
  | .struct d => fieldsReport table (TypeDecl.struct d).scope d.location d.name d.fields
  | .enum d =>
    (if d.variants.isEmpty then [(Problem.emptyEnum d.name).diagnostic d.location d.name] else [])
      ++ d.variantsReport table

/-! ## Functions -/

/-- What is wrong with the receiver of a function or with its name as a member, where `earlier`
are the functions before it. -/
def FunctionDecl.memberReport (s : Surroundings) (earlier : List FunctionDecl) (f : FunctionDecl) :
    Report :=
  match f.receiver with
  | none =>
    let before := (earlier.filter (·.receiver.isNone)).map (·.claim)
    conflictReport f.location f.subject ((Scope.type s.facade).conflict? before f.claim)
  | some r =>
    match s.table.lookup (Naming.lastSegment r.typeName) with
    | none => [(Problem.receiverNotExported r.typeName).diagnostic f.location f.subject]
    | some id =>
      match s.registry.type? id with
      | none => []
      | some t =>
        let before := (earlier.filter fun g => g.owner? = f.owner?).map (·.claim)
        conflictReport f.location f.subject
          (t.scope.conflict? (t.memberClaims ++ before) f.claim)

/-- Whether the type is a handle of a struct in the registry `r`. -/
def Registry.isStructHandle (r : Registry) : TypeRef → Bool
  | .handle id => r.isStruct id
  | _ => false

/-- What is wrong with the way that the parameter `p` hands over its argument. -/
def ParamDecl.transferReport (s : Surroundings) (location : Location) (subject : String)
    (p : ParamDecl) : Report :=
  match p.type.paramMode p.transfer with
  | .transfer =>
    if s.registry.isStructHandle (p.type.resolve s.table .param) then []
    else [(Problem.transferNeedsStruct p.type.display).diagnostic location subject]
  | .borrowed =>
    if p.transfer then [(Problem.transferOfBorrowed p.type.display).diagnostic location subject]
    else []
  | .owned => []

/-- The name that the parameter `p` asks for. -/
def paramClaim? (p : ParamDecl) : Option NameClaim :=
  if isUsableName p.name then some ⟨Naming.camel p.name, p.name⟩ else none

/-- What is wrong with the parameters of the function `f`. -/
def FunctionDecl.paramsReport (s : Surroundings) (f : FunctionDecl) : Report :=
  (withEarlier [] f.params).flatMap fun (earlier, p) =>
    let subject := s!"{f.subject}({p.name})"
    namedReport f.location subject p.name
      (conflictReport f.location subject
          (Scope.params.conflict? (earlier.filterMap paramClaim?) ⟨Naming.camel p.name, p.name⟩)
        ++ typeReport f.location subject (p.type.resolve s.table .param)
        ++ p.transferReport s f.location subject)

/-- What is wrong with the content of the function `f`, where the functions `earlier` are declared
before it. -/
def FunctionDecl.contentReport (s : Surroundings) (earlier : List FunctionDecl)
    (f : FunctionDecl) : Report :=
  f.memberReport s earlier ++ f.paramsReport s
    ++ typeReport f.location s!"{f.subject} -> {f.returns.display}"
      (f.returns.resolve s.table .return_)

/-! ## Declarations -/

/-- What is wrong with the names at the top level that a declaration asks for, where `earlier`
are the declarations before it. -/
def Declaration.topReport (facade : String) (earlier : List Declaration) (d : Declaration) :
    Report :=
  (withEarlier (earlier.flatMap (·.topClaims)) d.topClaims).flatMap fun (before, c) =>
    conflictReport d.location c.native (topConflict? facade before c)

/-- The diagnostic that the type `id` holds itself, if it does. -/
def Schema.recursionReport (s : Schema) (location : Location) (id : TypeId) : Report :=
  match s.cycle? id with
  | none => []
  | some cycle =>
    let name := s.typeName id
    [(Problem.recursiveType name (cycle.map s.typeName)).diagnostic location name]

/-- The diagnostics for the symbols of `item` that another item uses before. -/
def Surroundings.symbolReport (s : Surroundings) (location : Location) (item : ItemId) : Report :=
  (s.symbolConflicts.filter (·.1.item = item)).map fun (u, p) => p.diagnostic location u.subject

/-- What is wrong with a registered declaration, where `earlier` are the registered declarations
before it. -/
def Declaration.registeredReport (s : Surroundings) (earlier : List Declaration)
    (d : Declaration) : Report :=
  let before := Registry.ofRegistered earlier
  d.topReport s.facade earlier ++
    match d with
    | .function f =>
      f.contentReport s before.functions
        ++ s.symbolReport d.location (.function ⟨before.functions.length⟩)
    | .struct _ | .enum _ =>
      let id : TypeId := ⟨before.types.length⟩
      ((d.type?.map (·.contentReport s.table)).getD [])
        ++ s.schema.recursionReport d.location id ++ s.symbolReport d.location (.type id)

/-- What is wrong with a declaration, where `earlier` are all the declarations before it. -/
def Declaration.report (s : Surroundings) (earlier : List Declaration) (d : Declaration) :
    Report :=
  match d.refusal? earlier with
  | some (subject, p) => [p.diagnostic d.location subject]
  | none => d.registeredReport s (registered earlier)

/-! ## Schemas -/

/-- What the declarations `ds` have in common. -/
def Surroundings.ofDeclarations (facade : String) (ds : List Declaration) : Surroundings :=
  let registry := Registry.ofDeclarations ds
  let names := grantedNames facade ((registered ds).flatMap (·.topClaims))
  let schema := registry.schema names
  ⟨facade, registry, schema, schema.symbolConflicts⟩

/-- Everything that is wrong with the declarations `ds`, in their order. -/
def Schema.report (facade : String) (ds : List Declaration) : Report :=
  let s := Surroundings.ofDeclarations facade ds
  (withEarlier [] ds).flatMap fun (earlier, d) => d.report s earlier

/-- The schema of the declarations `ds`, or everything that is wrong with it. -/
def Schema.build (facade : String) (ds : List Declaration) : Except Report Schema :=
  match Schema.report facade ds with
  | [] => .ok (Surroundings.ofDeclarations facade ds).schema
  | d :: rest => .error (d :: rest)

/-- `build` accepts a list of declarations exactly if its `report` is empty. -/
theorem Schema.build_eq_ok_iff {facade : String} {ds : List Declaration} {s : Schema} :
    Schema.build facade ds = .ok s ↔
      Schema.report facade ds = [] ∧ s = (Surroundings.ofDeclarations facade ds).schema := by
  unfold Schema.build
  split
  · rename_i h
    rw [h, Except.ok.injEq]
    exact ⟨fun e => ⟨rfl, e.symm⟩, fun e => e.2.symm⟩
  · rename_i h
    simp [h]

end Boundary
