import Boundary.Json.Shape

/-!
# Reading values

Readers of plain values, of records and of tags. A record may be written as an object or as an
array of its fields in their declared order; a tagged value may be written as an object with the
tag among its members or as an array that starts with the tag.

* `readString`, `readBool`, `readNat`, `readList`, `readOption`: plain values.
* `RecordField`, `readRecord`: records. Members that no field is named for are passed over.
* `Tagged.split`: the tag and the content of a tagged value.
* `readTag`: a tag by its name or by its number.
-/

namespace Boundary.Json

/-- A failure to find what is expected. -/
def Value.refuse {α : Type} (v : Value) (expected : String) : Except ShapeError α :=
  .error (.invalidType v.found expected)

/-- A text. -/
def readString : Value → Except ShapeError String
  | .string s => .ok s
  | v => v.refuse "a string"

/-- A truth value. -/
def readBool : Value → Except ShapeError Bool
  | .bool b => .ok b
  | v => v.refuse "a boolean"

/-- A natural number up to a limit, which `expected` names. -/
def readNat (limit : Nat) (expected : String) : Value → Except ShapeError Nat
  | .number (.int n) =>
    if 0 ≤ n && n ≤ limit then .ok n.toNat
    else .error (.invalidValue (.number (.int n)) expected)
  | v => v.refuse expected

/-- A 32-bit word. -/
def readWord32 (v : Value) : Except ShapeError UInt32 :=
  (readNat 0xFFFFFFFF "u32" v).map UInt32.ofNat

/-- A list. -/
def readList {α : Type} (read : Value → Except ShapeError α) : Value → Except ShapeError (List α)
  | .array items => items.mapM read
  | v => v.refuse "a sequence"

/-- A value or `null`. -/
def readOption {α : Type} (read : Value → Except ShapeError α) :
    Value → Except ShapeError (Option α)
  | .null => .ok none
  | v => (read v).map some

/-! ## Records -/

/-- A field of a record that is drafted as `δ`. -/
structure RecordField (δ : Type) where
  name : String
  required : Bool
  set : δ → Value → Except ShapeError δ

/-- The fields of an object, in the order of its members. -/
def readMembers {δ : Type} (fields : List (RecordField δ)) (draft : δ) (members : Members) :
    Except ShapeError δ := do
  let draft ← members.foldlM (fun draft (key, v) =>
    match fields.find? (·.name = key) with
    | some field => field.set draft v
    | none => pure draft) draft
  match fields.find? fun field => field.required && (members.get? field.name).isNone with
  | some field => throw (.missingField field.name)
  | none => pure draft

/-- The fields of an array, from the field number `n` on. -/
def readItems {δ : Type} (what : String) (count : Nat) (n : Nat) (draft : δ) :
    List (RecordField δ) → List Value → Except ShapeError δ
  | [], [] => .ok draft
  | [], items => .error (.invalidLength (n + items.length) (counted n "element" ++ " in sequence"))
  | field :: fields, [] =>
    if field.required then .error (.invalidLength n (what ++ " with " ++ counted count "element"))
    else readItems what count (n + 1) draft fields []
  | field :: fields, v :: items => do
    let draft ← field.set draft v
    readItems what count (n + 1) draft fields items

/-- A record that is described as `what`. -/
def readRecord {δ : Type} (what : String) (fields : List (RecordField δ)) (draft : δ) :
    Value → Except ShapeError δ
  | .object members => readMembers fields draft members
  | .array items => readItems what fields.length 0 draft fields items
  | v => v.refuse what

/-! ## Tags -/

/-- The tag of a tagged value, and its content as an object or an array. -/
structure Tagged where
  tag : Value
  content : Value

/-- The tag and the content of a tagged value, where `key` names the tag. -/
def Tagged.split (what key : String) : Value → Except ShapeError Tagged
  | .object members =>
    match members.lookup key with
    | some tag => .ok ⟨tag, .object (members.filter (·.1 ≠ key))⟩
    | none => .error (.missingField key)
  | .array (tag :: items) => .ok ⟨tag, .array items⟩
  | .array [] => .error (.missingField key)
  | v => v.refuse ("internally tagged enum " ++ what)

/-- The step from a tagged value to its tag. -/
def Tagged.step (key : String) : Value → Step
  | .array _ => .index 0
  | _ => .key key

/-- One of several names. -/
def readName {α : Type} (known : List (String × α)) : Value → Except ShapeError α
  | .string s =>
    match known.lookup s with
    | some a => .ok a
    | none => .error (.unknownVariant s (known.map (·.1)))
  | v => v.refuse "variant identifier"

/-- One of several names, or its number. -/
def readTag {α : Type} (known : List (String × α)) : Value → Except ShapeError α
  | .number (.int n) =>
    if n < 0 then Value.refuse (.number (.int n)) "variant identifier"
    else
      match known[n.toNat]? with
      | some (_, a) => .ok a
      | none =>
        .error (.invalidValue (.number (.int n)) s!"variant index 0 <= i < {known.length}")
  | v => readName known v

/-- One of several names, which may be written as the only member of an object without content. -/
def readUnitVariant {α : Type} (known : List (String × α)) : Value → Except ShapeError α
  | .object [(name, content)] => do
    let a ← readName known (.string name)
    match content with
    | .null | .object [] => pure a
    | content => content.refuse "unit"
  | .object _ => .error (.invalidValue .map "map with a single key")
  | .string s => readName known (.string s)
  | v => v.refuse "string or map"

/-- An error at a path. -/
def ShapeError.at_ (e : ShapeError) (path : Path) : Located := ⟨path, e.message⟩

end Boundary.Json
