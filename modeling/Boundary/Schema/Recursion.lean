import Boundary.Schema

/-!
# Types that hold themselves

* `Schema.mentions`: the exported types that occur in the fields of a type.
* `Schema.cycle?`: a shortest way from a type back to itself.
-/

namespace Boundary

/-- The exported types that occur in the fields of a struct. -/
def ExportedStruct.mentions (s : ExportedStruct) : List TypeId := s.fields.flatMap (·.type.handles)

/-- The exported types that occur in the variants of an enum. -/
def ExportedEnum.mentions (e : ExportedEnum) : List TypeId :=
  e.variants.flatMap fun v => v.payload.fields.flatMap (·.type.handles)

/-- The exported types that occur in the fields of a type. -/
def Schema.mentions (s : Schema) (id : TypeId) : List TypeId :=
  ((s.struct? id).map ExportedStruct.mentions).getD [] ++
    ((s.enum? id).map ExportedEnum.mentions).getD []

/-! ## Search by levels -/

/-- The ways of one length that are still to be followed, and the types reached so far. A way is
written backwards, its last type first. -/
structure Frontier where
  visited : List TypeId
  ways : List (List TypeId)

/-- A frontier with one more way, unless its last type has been reached before. -/
def Frontier.reach (f : Frontier) (way : List TypeId) (next : TypeId) : Frontier :=
  if f.visited.contains next then f
  else ⟨f.visited ++ [next], f.ways ++ [next :: way]⟩

/-- Follows a way by one step to each of the given types; stops at a way that ends at `start`. -/
def Frontier.follow (start : TypeId) (way : List TypeId) :
    Frontier → List TypeId → Except (List TypeId) Frontier
  | f, [] => .ok f
  | f, next :: rest =>
    if next = start then .error (next :: way)
    else (f.reach way next).follow start way rest

/-- Follows each way by one step. -/
def Frontier.followAll (start : TypeId) (step : TypeId → List TypeId) :
    Frontier → List (List TypeId) → Except (List TypeId) Frontier
  | f, [] => .ok f
  | f, way :: rest => do
    let f ← f.follow start way ((way.head?.map step).getD [])
    f.followAll start step rest

/-- The first way back to `start` of at most `bound` more steps. -/
def Frontier.search (start : TypeId) (step : TypeId → List TypeId) :
    (bound : Nat) → Frontier → Option (List TypeId)
  | 0, _ => none
  | bound + 1, f =>
    match Frontier.followAll start step ⟨f.visited, []⟩ f.ways with
    | .error way => some way.reverse
    | .ok next => next.search start step bound

/-- A shortest way from a type back to itself. No shortest way has more steps than there are
types. -/
def Schema.cycle? (s : Schema) (id : TypeId) : Option (List TypeId) :=
  Frontier.search id s.mentions (s.structs.length + s.enums.length) ⟨[], [[id]]⟩

end Boundary
