import Boundary.Schema.Names
import Boundary.EntryPoint

/-!
# Symbols of entry points

The symbols of two items may not be the same.

* `ItemId`: an exported item.
* `Schema.symbolUses`: who uses which symbol.
* `Schema.symbolConflicts`: the uses of a symbol that somebody else uses before.
-/

namespace Boundary

/-- The number of an exported item. -/
inductive ItemId
  | type (id : TypeId)
  | function (id : FunctionId)
deriving Repr, DecidableEq

/-- The item that an entry point belongs to. -/
def EntryPurpose.item? : EntryPurpose → Option ItemId
  | .bufferFree => none
  | .ctor id | .free id | .tag id => some (.type id)
  | .getter id _ | .variantCtor id _ | .variantGetter id _ _ => some (.type id)
  | .function id => some (.function id)

/-- The part of an item that an entry point is about, in messages. -/
def Schema.entrySubject (s : Schema) : EntryPurpose → String
  | .bufferFree => ""
  | .ctor id | .free id | .tag id => s.typeName id
  | .getter id field =>
    match (s.struct? id).bind (·.fields[field]?) with
    | some f => s!"{s.typeName id}.{f.name}"
    | none => s.typeName id
  | .variantCtor id variant | .variantGetter id variant _ =>
    match (s.enum? id).bind (·.variants[variant]?) with
    | some v => s!"{s.typeName id}.{v.name}"
    | none => s.typeName id
  | .function id =>
    match s.function? id with
    | some f => qualified (s.ownerName f) f.name
    | none => ""

/-- A symbol with the item that uses it. -/
structure SymbolUse where
  symbol : String
  item : ItemId
  subject : String
deriving Repr, DecidableEq

/-- What symbols start with in messages, where the start that is configured is not known. -/
def anyStart : String := "*"

/-- Who uses which symbol, in the order of the entry points. -/
def Schema.symbolUses (s : Schema) : List SymbolUse :=
  (s.entryPoints anyStart).filterMap fun entry =>
    entry.purpose.item?.map fun item => ⟨entry.symbol, item, s.entrySubject entry.purpose⟩

/-- The problem of a use, where `earlier` are the uses before it. -/
def SymbolUse.conflict? (earlier : List SymbolUse) (u : SymbolUse) : Option Problem :=
  match earlier.find? (·.symbol = u.symbol) with
  | some first =>
    if first.subject = u.subject then none
    else some (.sharedSymbol u.symbol first.subject u.subject)
  | none => none

/-- The uses of a symbol that somebody else uses before. -/
def Schema.symbolConflicts (s : Schema) : List (SymbolUse × Problem) :=
  (withEarlier [] s.symbolUses).filterMap fun (earlier, u) => (u.conflict? earlier).map (u, ·)

end Boundary
