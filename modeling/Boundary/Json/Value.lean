import Boundary.Json.Token
import Boundary.Decimal.Layout

/-!
# JSON values

* `Value`: a JSON value; the members of an object keep the order of their first appearance.
* `Members.put`, `Members.get?`: a later member of the same name takes the place of the earlier.
* `Value.compact`, `Value.pretty`: the text of a value on one line, and on several lines with two
  blanks for each level.
* `get?_put_self`, `get?_put_of_ne`: what is read after a member has been put.
-/

namespace Boundary.Json

/-- A JSON value. -/
inductive Value
  | null
  | bool (b : Bool)
  | number (n : Number)
  | string (s : String)
  | array (items : List Value)
  | object (members : List (String × Value))
deriving Inhabited

/-- The members of an object in the order of their first appearance. -/
abbrev Members := List (String × Value)

/-- Puts a member: in the place of the one of the same name, otherwise at the end. -/
def Members.put (key : String) (value : Value) : Members → Members
  | [] => [(key, value)]
  | (k, v) :: rest => if k = key then (k, value) :: rest else (k, v) :: Members.put key value rest

/-- The value of the member of that name. -/
def Members.get? (members : Members) (key : String) : Option Value := List.lookup key members

theorem Members.get?_put_self (key : String) (value : Value) (members : Members) :
    (Members.put key value members).get? key = some value := by
  induction members with
  | nil => simp [put, get?]
  | cons m rest ih =>
    obtain ⟨k, v⟩ := m
    by_cases h : k = key
    · simp [put, get?, h]
    · have hk : (key == k) = false := beq_eq_false_iff_ne.2 fun e => h e.symm
      simp only [get?] at ih
      simp [put, get?, h, hk, List.lookup_cons, ih]

theorem Members.get?_put_of_ne {key other : String} (value : Value) (members : Members)
    (h : other ≠ key) : (Members.put key value members).get? other = members.get? other := by
  have ho : (other == key) = false := beq_eq_false_iff_ne.2 h
  induction members with
  | nil => simp [put, get?, ho, List.lookup_cons]
  | cons m rest ih =>
    obtain ⟨k, v⟩ := m
    by_cases hk : k = key
    · simp [put, get?, hk, ho, List.lookup_cons]
    · simp only [get?] at ih
      simp [put, get?, hk, ih, List.lookup_cons]

/-- The object made of the members that are present. -/
def Value.ofMembers (members : List (String × Value)) : Value := .object members

/-- A value, or `null` for nothing. -/
def Value.ofOption {α : Type} (f : α → Value) : Option α → Value
  | some a => f a
  | none => .null

/-- A natural number as a value. -/
def Value.ofNat (n : Nat) : Value := .number (.int n)

/-- A list as a value. -/
def Value.ofList {α : Type} (f : α → Value) (items : List α) : Value := .array (items.map f)

/-! ## Text -/

/-- A hexadecimal digit. -/
def hexChar (n : Nat) : Char := Nat.digitChar n

/-- The written form of a character of a string. -/
def escapeChar (c : Char) : List Char :=
  match c with
  | '"' => ['\\', '"']
  | '\\' => ['\\', '\\']
  | '\x08' => ['\\', 'b']
  | '\x0c' => ['\\', 'f']
  | '\n' => ['\\', 'n']
  | '\r' => ['\\', 'r']
  | '\t' => ['\\', 't']
  | c =>
    if c < ' ' then ['\\', 'u', '0', '0', hexChar (c.toNat / 16), hexChar (c.toNat % 16)] else [c]

/-- The text of a string. -/
def stringText (s : String) : String :=
  "\"" ++ String.ofList (s.toList.flatMap escapeChar) ++ "\""

/-- The text of a number; infinities and what is not a number have none of their own. -/
def Number.text : Number → String
  | .int n => toString n
  | .float bits => (Decimal.doubleText? bits).getD "null"
  | .single bits => (Decimal.singleText? bits).getD "null"

mutual

/-- The text of a value on one line. -/
def Value.compact : Value → String
  | .null => "null"
  | .bool b => if b then "true" else "false"
  | .number n => n.text
  | .string s => stringText s
  | .array items => "[" ++ ",".intercalate (compactItems items) ++ "]"
  | .object members => "\x7b" ++ ",".intercalate (compactMembers members) ++ "\x7d"

/-- The texts of the items of an array. -/
def compactItems : List Value → List String
  | [] => []
  | v :: rest => v.compact :: compactItems rest

/-- The texts of the members of an object. -/
def compactMembers : List (String × Value) → List String
  | [] => []
  | (k, v) :: rest => (stringText k ++ ":" ++ v.compact) :: compactMembers rest

end

/-- The beginning of a line at the given depth. -/
def newLine (depth : Nat) : String := "\n" ++ String.ofList (List.replicate (2 * depth) ' ')

/-- A list of texts between brackets, each on a line of its own. -/
def bracketed (opening closing : String) (depth : Nat) (parts : List String) : String :=
  if parts.isEmpty then opening ++ closing
  else
    opening ++ newLine (depth + 1) ++ ("," ++ newLine (depth + 1)).intercalate parts
      ++ newLine depth ++ closing

mutual

/-- The text of a value on several lines, at the given depth. -/
def Value.prettyAt (depth : Nat) : Value → String
  | .array items => bracketed "[" "]" depth (prettyItems (depth + 1) items)
  | .object members => bracketed "\x7b" "\x7d" depth (prettyMembers (depth + 1) members)
  | .null => "null"
  | .bool b => if b then "true" else "false"
  | .number n => n.text
  | .string s => stringText s

/-- The texts of the items of an array. -/
def prettyItems (depth : Nat) : List Value → List String
  | [] => []
  | v :: rest => v.prettyAt depth :: prettyItems depth rest

/-- The texts of the members of an object. -/
def prettyMembers (depth : Nat) : List (String × Value) → List String
  | [] => []
  | (k, v) :: rest => (stringText k ++ ": " ++ v.prettyAt depth) :: prettyMembers depth rest

end

/-- The text of a value on several lines. -/
def Value.pretty (v : Value) : String := v.prettyAt 0

end Boundary.Json
