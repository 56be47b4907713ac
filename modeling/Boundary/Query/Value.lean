import Boundary.Json.Value

/-!
# Operations of queries on values

* `Value.holds`: what counts as true: everything but `null` and `false`.
* `Value.order`: the order of all values.
* `Value.plus`, `Value.minus`: sums and differences.
* `Value.at_?`, `Value.slice?`, `Value.parts?`, `Value.all`: a part, a range of parts, all parts
  of a value, and everything in it.
* `Value.size?`, `Value.keys?`, `Value.reversed?`: what is known of all parts.
-/

namespace Boundary.Json

/-- What counts as true. -/
def Value.holds : Value → Bool
  | .null | .bool false => false
  | _ => true

/-! ## Order -/

/-- The kinds of value in their order. -/
def Value.rank : Value → Nat
  | .null => 0
  | .bool false => 1
  | .bool true => 2
  | .number _ => 3
  | .string _ => 4
  | .array _ => 5
  | .object _ => 6

/-- A number as a double. -/
def Number.toFloat : Number → Float
  | .int n => .ofInt n
  | .float bits => .ofBits bits
  | .single bits => (Float32.ofBits bits).toFloat

/-- The order of numbers. -/
def Number.order : Number → Number → Ordering
  | .int m, .int n => compare m n
  | a, b =>
    if a.toFloat < b.toFloat then .lt else if a.toFloat == b.toFloat then .eq else .gt

/-- Puts a member before the first one whose name comes later. -/
def Members.insertSorted (m : String × Value) : List (String × Value) → List (String × Value)
  | [] => [m]
  | n :: rest => if m.1 < n.1 then m :: n :: rest else n :: Members.insertSorted m rest

mutual

/-- The value with the members of all its objects in the order of their names. -/
def Value.sorted : Value → Value
  | .array items => .array (sortedItems items)
  | .object members => .object (sortedMembers members)
  | v => v

/-- The items with their members in order. -/
def sortedItems : List Value → List Value
  | [] => []
  | v :: rest => v.sorted :: sortedItems rest

/-- The members in the order of their names. -/
def sortedMembers : List (String × Value) → List (String × Value)
  | [] => []
  | (k, v) :: rest => Members.insertSorted (k, v.sorted) (sortedMembers rest)

end

mutual

/-- The order of values whose members are in order. -/
def Value.orderSorted : Value → Value → Ordering
  | .number a, .number b => a.order b
  | .string a, .string b => compare a b
  | .array as, .array bs => orderItems as bs
  | .object as, .object bs =>
    (compare (as.map (·.1)) (bs.map (·.1))).then (orderMembers as bs)
  | a, b => compare a.rank b.rank

/-- The order of lists of items. -/
def orderItems : List Value → List Value → Ordering
  | [], [] => .eq
  | [], _ :: _ => .lt
  | _ :: _, [] => .gt
  | a :: as, b :: bs => (a.orderSorted b).then (orderItems as bs)

/-- The order of the values of members of the same names. -/
def orderMembers : List (String × Value) → List (String × Value) → Ordering
  | (_, a) :: as, (_, b) :: bs => (a.orderSorted b).then (orderMembers as bs)
  | _, _ => .eq

end

/-- The order of values. -/
def Value.order (a b : Value) : Ordering := a.sorted.orderSorted b.sorted

/-! ## Sums and differences -/

/-- Whether a number is a signed 64-bit integer. -/
def Number.word? : Number → Option Int
  | .int n => if -0x8000000000000000 ≤ n && n < 0x8000000000000000 then some n else none
  | _ => none

/-- The integer if it fits a signed 64-bit word, otherwise the double. -/
def Number.ofInt (n : Int) (otherwise : Float) : Number :=
  if -0x8000000000000000 ≤ n && n < 0x8000000000000000 then .int n else .float otherwise.toBits

/-- A number made from two, exactly if both are signed 64-bit integers. -/
def Number.combine (exact : Int → Int → Int) (rounded : Float → Float → Float) (a b : Number) :
    Number :=
  match a.word?, b.word? with
  | some m, some n => .ofInt (exact m n) (rounded a.toFloat b.toFloat)
  | _, _ => .float (rounded a.toFloat b.toFloat).toBits

/-- The sum of two values. Nothing changes if `null` is added; texts and arrays are joined, and
members of the second object take the place of those of the first. -/
def Value.plus : Value → Value → Option Value
  | .null, b => some b
  | a, .null => some a
  | .number a, .number b => some (.number (a.combine (· + ·) (· + ·) b))
  | .string a, .string b => some (.string (a ++ b))
  | .array as, .array bs => some (.array (as ++ bs))
  | .object as, .object bs => some (.object (bs.foldl (fun m (k, v) => Members.put k v m) as))
  | _, _ => none

/-- The difference of two numbers, or the items that are not among others. -/
def Value.minus : Value → Value → Option Value
  | .number a, .number b => some (.number (a.combine (· - ·) (· - ·) b))
  | .array as, .array bs => some (.array (as.filter fun a => bs.all fun b => a.order b ≠ .eq))
  | _, _ => none

/-! ## Parts -/

/-- The place that an index names in a list of the given length; negative ones count from the
end. -/
def place? (length : Nat) (i : Int) : Option Nat :=
  if 0 ≤ i then some i.toNat
  else if -i ≤ length then some (length - (-i).toNat) else none

/-- A part of a value. What is not there is `null`. -/
def Value.at_? (v index : Value) : Option Value :=
  match v, index with
  | .null, _ => some .null
  | .array items, .number (.int i) =>
    some (((place? items.length i).bind fun n => items[n]?).getD .null)
  | .object members, .string key => some ((Members.get? members key).getD .null)
  | _, _ => none

/-- The bound of a range: an integer, or `null` for none. -/
def bound? : Value → Option (Option Int)
  | .null => some none
  | .number (.int i) => some (some i)
  | _ => none

/-- The items from one bound to before another one. -/
def slice {α : Type} (items : List α) (first last : Option Int) : List α :=
  let n := items.length
  let bound (i : Int) : Nat := min ((place? n i).getD 0) n
  (items.take ((last.map bound).getD n)).drop ((first.map bound).getD 0)

/-- A range of a value. -/
def Value.slice? (v first last : Value) : Option Value := do
  match v with
  | .null => some .null
  | .array items => return .array (slice items (← bound? first) (← bound? last))
  | .string s => return .string (.ofList (slice s.toList (← bound? first) (← bound? last)))
  | _ => none

/-- All parts of a value. -/
def Value.parts? : Value → Option (List Value)
  | .array items => some items
  | .object members => some (members.map (·.2))
  | _ => none

mutual

/-- A value and everything in it, where a value stands before its parts. -/
def Value.all : Value → List Value
  | .array items => .array items :: allItems items
  | .object members => .object members :: allMembers members
  | v => [v]

/-- Everything in the items. -/
def allItems : List Value → List Value
  | [] => []
  | v :: rest => v.all ++ allItems rest

/-- Everything in the members. -/
def allMembers : List (String × Value) → List Value
  | [] => []
  | (_, v) :: rest => v.all ++ allMembers rest

end

/-- The absolute value of a number. -/
def Number.abs : Number → Number
  | .int n => .int n.natAbs
  | n => .float n.toFloat.abs.toBits

/-- The size of a value. -/
def Value.size? : Value → Option Value
  | .null => some (.ofNat 0)
  | .bool _ => none
  | .number n => some (.number n.abs)
  | .string s => some (.ofNat s.length)
  | .array items => some (.ofNat items.length)
  | .object members => some (.ofNat members.length)

/-- The indices of an array, or the names of the members of an object in order. -/
def Value.keys? : Value → Option Value
  | .array items => some (.array ((List.range items.length).map .ofNat))
  | .object members => some (.array ((sortedMembers members).map fun m => .string m.1))
  | _ => none

/-- The items of an array from the last to the first. -/
def Value.reversed? : Value → Option Value
  | .array items => some (.array items.reverse)
  | _ => none

/-- A number with the opposite sign. -/
def Value.negated? : Value → Option Value
  | .number n => some (.number (Number.combine (· - ·) (fun _ x => -x) (.int 0) n))
  | _ => none

end Boundary.Json
