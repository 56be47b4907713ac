import Boundary.FlatType
import Boundary.Schema
import Boundary.Schema.Problem

/-!
# Managed names

Every declared item asks for managed names: types and free functions at the top level, fields,
variants and methods inside a type, parameters inside a parameter list. The first to ask for a
name gets it, unless support code has it already.

* `identifierProblem?`: the names that no item may have.
* `Scope`, `Scope.conflict?`: names inside a type or a parameter list.
* `topConflict?`: names at the top level.
* `withEarlier`: the items of a list, each with those before it.
-/

namespace Boundary

/-- The items of a list, each with those before it. -/
def withEarlier {α : Type} (earlier : List α) : List α → List (List α × α)
  | [] => []
  | a :: rest => (earlier, a) :: withEarlier (earlier ++ [a]) rest

theorem map_snd_withEarlier {α : Type} (earlier as : List α) :
    (withEarlier earlier as).map (·.2) = as := by
  induction as generalizing earlier with
  | nil => rfl
  | cons a rest ih => simp [withEarlier, ih]

/-- An item stands behind the items that are given with it. -/
theorem mem_withEarlier_iff {α : Type} {earlier before as : List α} {a : α} :
    (before, a) ∈ withEarlier earlier as ↔
      ∃ front back, as = front ++ a :: back ∧ before = earlier ++ front := by
  induction as generalizing earlier with
  | nil => simp [withEarlier]
  | cons x rest ih =>
    simp only [withEarlier, List.mem_cons, ih, Prod.mk.injEq]
    constructor
    · rintro (⟨rfl, rfl⟩ | ⟨front, back, rfl, rfl⟩)
      · exact ⟨[], rest, by simp, by simp⟩
      · exact ⟨x :: front, back, by simp, by simp⟩
    · rintro ⟨front, back, h, rfl⟩
      cases front with
      | nil => simp_all
      | cons y front =>
        obtain ⟨rfl, rfl⟩ : x = y ∧ rest = front ++ a :: back := by simpa using h
        exact .inr ⟨front, back, rfl, by simp⟩

/-! ## Identifiers -/

/-- What is wrong with a name as such. -/
def identifierProblem? (name : String) : Option Problem :=
  if !Naming.isIdentifier name then some (.notIdentifier name)
  else if (Naming.bare name).startsWith "__" then some (.reservedIdentifier name)
  else none

/-- Whether an item may have the name. -/
def isUsableName (name : String) : Bool := (identifierProblem? name).isNone

/-! ## Reserved names -/

/-- The top-level names of the support code in every managed file. -/
def reservedTypeNames : List String := [
  "RustBuffer", "FfiStr", "CallStatus", "Utf8Arg", "OwnedHandle", "ByteReader", "NativeMethods",
  "Ffi", "NativeException", "NativePanicException", "NativeContractException",
  "NativeErrorException"]

/-- The members that every generated type already has. -/
def reservedMemberNames : List String := [
  "Dispose", "RawHandle", "Forget", "Free", "FromHandle", "Equals", "GetHashCode", "ToString",
  "GetType", "Finalize", "MemberwiseClone", "EqualityContract", "Deconstruct", "PrintMembers"]

/-- The helpers that the class of an enum has beside its variants. -/
def enumHelperNames : List String := ["Decode", "Lower"]

/-- The class of the free functions, if no other name is given. -/
def defaultFacade : String := "NativeApi"

/-! ## Names inside a scope -/

/-- A managed name that an item asks for. -/
structure NameClaim where
  managed : String
  native : String
deriving Repr, DecidableEq

/-- Where names of members have to differ. -/
structure Scope where
  /-- The managed name of the enclosing type; empty if there is none. -/
  owner : String
  reserved : List String

/-- The scope of the members of a type. -/
def Scope.type (owner : String) : Scope := ⟨owner, reservedMemberNames ++ reservedTypeNames⟩

/-- The scope of the members of an enum. -/
def Scope.enum (owner : String) : Scope :=
  ⟨owner, reservedMemberNames ++ reservedTypeNames ++ enumHelperNames⟩

/-- The scope of a list of parameters. -/
def Scope.params : Scope := ⟨"", []⟩

/-- Why the scope does not grant a name, where `earlier` has been asked for before. -/
def Scope.conflict? (s : Scope) (earlier : List NameClaim) (c : NameClaim) : Option Problem :=
  if c.managed = s.owner then some (.memberNamedAsOwner c.native c.managed)
  else if s.reserved.contains c.managed then some (.reservedMember c.native c.managed)
  else
    match earlier.find? (·.managed = c.managed) with
    | some first => some (.sharedMember c.native first.native c.managed)
    | none => none

/-! ## Names at the top level -/

/-- A managed name at the top level that an item asks for. -/
structure TopClaim where
  managed : String
  native : String
  kind : NameKind
deriving Repr, DecidableEq

/-- The names that support code has at the top level, where `facade` is the class of the free
functions. -/
def reservedTopNames (facade : String) : List String :=
  reservedTypeNames ++ if reservedTypeNames.contains facade then [] else [facade]

/-- Why a name at the top level is not granted, where `earlier` has been asked for before. -/
def topConflict? (facade : String) (earlier : List TopClaim) (c : TopClaim) : Option Problem :=
  if (reservedTopNames facade).contains c.managed then some (.reservedName c.native c.managed)
  else if c.managed.startsWith optionPrefix then
    some (.reservedPrefix c.native c.managed optionPrefix)
  else
    match earlier.find? (·.managed = c.managed) with
    | some first => some (.sharedName c.native first.native c.managed)
    | none => none

/-- The index of the names at the top level: those of support code, then all that are granted. -/
def grantedNames (facade : String) (claims : List TopClaim) : List (String × NameEntry) :=
  ((reservedTopNames facade).map fun name => (name, ⟨name, .reserved⟩)) ++
    (withEarlier [] claims).filterMap fun (earlier, c) =>
      if (topConflict? facade earlier c).isNone then some (c.managed, ⟨c.native, c.kind⟩) else none

end Boundary
