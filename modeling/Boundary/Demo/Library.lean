import Boundary.Native.Machine
import Boundary.Text.Blank

/-!
# A small library

The functions of a demonstration library with a struct and an enum.

* `Person`, `Message`: its types.
* `greet`, `parseAge`, `elder` and others: its functions.
* `library`: the functions on native values.
-/

namespace Boundary.Demo

open Native

/-- A person. -/
structure Person where
  name : String
  age : UInt32
deriving Repr, DecidableEq

/-- A message. -/
inductive Message
  | noData
  | toggle (on : Bool)
  | keyValue (key value : String)
deriving Repr, DecidableEq

/-! ## Functions -/

/-- A greeting. -/
def greet (p : Person) : String := s!"Hello, {p.name}! You are {p.age} years old."

/-- The number that decimal digits write, unless it exceeds the limit. -/
def readDigits (limit : Nat) : Nat → List Char → Option Nat
  | n, [] => some n
  | n, c :: rest =>
    let next := n * 10 + (c.toNat - '0'.toNat)
    if c.isDigit && next ≤ limit then readDigits limit next rest else none

/-- The number written in decimal digits, perhaps behind a plus sign, if it fits 32 bits. -/
def readNumber (s : String) : Option Nat :=
  let digits := match s.toList with
    | '+' :: rest => rest
    | cs => cs
  if digits.isEmpty then none else readDigits 0xFFFFFFFF 0 digits

/-- The age written in a text, with blanks around it. -/
def parseAge (text : String) : Except String UInt32 :=
  match readNumber (Text.trim text) with
  | some n => .ok (UInt32.ofNat n)
  | none => .error s!"`{text}` is not an age"

/-- The nickname for a name. -/
def findNickname : String → Option String
  | "Randall" => some "Randy"
  | "Katherine" => some "Kate"
  | _ => none

/-- A message in words. -/
def describe : Message → String
  | .noData => "no data"
  | .toggle on => "toggle " ++ if on then "on" else "off"
  | .keyValue key value => key ++ "=" ++ value

/-- A number below a hundred. -/
def luckyNumber (seed : Option UInt32) : Option UInt32 := seed.map fun n => n * 7 % 100

/-- What becomes of a person. -/
def adopt (p : Person) : String := s!"{p.name} was adopted"

/-- The person under another name. -/
def rename (p : Person) (name : String) : Person := { p with name }

/-- Whether the person is of age. -/
def isAdult (p : Person) : Bool := 18 ≤ p.age

/-- The older of two, or nobody if there is no one to compare with. -/
def elder (p : Person) (other : Option Person) : Option Person :=
  other.map fun o => if p.age < o.age then o else p

/-- The message with its switch turned. -/
def flip : Message → Message
  | .toggle on => .toggle !on
  | m => m

/-- Fails with the message unless it is a switch. -/
def requireToggle : Message → Except Message Unit
  | .toggle _ => .ok ()
  | m => .error m

/-! ## Native values -/

/-- A person as a native value. -/
def Person.native (p : Person) : NativeValue := .record [.text p.name, .primitive (.u32 p.age)]

/-- The person that a native value is. -/
def Person.ofNative? : NativeValue → Option Person
  | .record [.text name, .primitive (.u32 age)] => some ⟨name, age⟩
  | _ => none

/-- A message as a native value. -/
def Message.native : Message → NativeValue
  | .noData => .variant 0 []
  | .toggle on => .variant 1 [.primitive (.bool on)]
  | .keyValue key value => .variant 2 [.text key, .text value]

/-- The message that a native value is. -/
def Message.ofNative? : NativeValue → Option Message
  | .variant 0 [] => some .noData
  | .variant 1 [.primitive (.bool on)] => some (.toggle on)
  | .variant 2 [.text key, .text value] => some (.keyValue key value)
  | _ => none

theorem Person.ofNative?_native (p : Person) : ofNative? p.native = some p := rfl

theorem Message.ofNative?_native (m : Message) : ofNative? m.native = some m := by cases m <;> rfl

/-- An outcome that is a text. -/
def textOutcome (s : String) : Outcome := .value (.text s)

/-- An outcome that is an option. -/
def optionOutcome {α : Type} (native : α → NativeValue) (a : Option α) : Outcome :=
  .value (.option (a.map native))

/-- A truth value as a native value. -/
def boolNative (b : Bool) : NativeValue := .primitive (.bool b)

/-- A number as a native value. -/
def numberNative (n : UInt32) : NativeValue := .primitive (.u32 n)

/-- The functions on native values. Arguments of other types do not occur. -/
def library : Library
  | none, "greet", [p] => ((Person.ofNative? p).map fun p => textOutcome (greet p)).getD default
  | none, "parse_age", [.text s] =>
    match parseAge s with
    | .ok n => .value (numberNative n)
    | .error e => .failure (.text e)
  | none, "find_nickname", [.text s] => optionOutcome .text (findNickname s)
  | none, "describe", [m] =>
    ((Message.ofNative? m).map fun m => textOutcome (describe m)).getD default
  | none, "lucky_number", [.option none] => optionOutcome numberNative (luckyNumber none)
  | none, "lucky_number", [.option (some (.primitive (.u32 n)))] =>
    optionOutcome numberNative (luckyNumber (some n))
  | none, "adopt", [p] => ((Person.ofNative? p).map fun p => textOutcome (adopt p)).getD default
  | none, "explode", [] => .abort (some "boom")
  | some "Person", "rename", [p, .text s] =>
    ((Person.ofNative? p).map fun p => Outcome.value (rename p s).native).getD default
  | some "Person", "is_adult", [p] =>
    ((Person.ofNative? p).map fun p => Outcome.value (boolNative (isAdult p))).getD default
  | none, "invert", [.option none] => optionOutcome boolNative none
  | none, "invert", [.option (some (.primitive (.bool b)))] => optionOutcome boolNative (some !b)
  | none, "elder", [p, .option other] =>
    ((Person.ofNative? p).map fun p =>
      optionOutcome Person.native (elder p (other.bind Person.ofNative?))).getD default
  | none, "flip", [m] =>
    ((Message.ofNative? m).map fun m => Outcome.value (flip m).native).getD default
  | none, "require_toggle", [m] =>
    ((Message.ofNative? m).map fun m =>
      match requireToggle m with
      | .ok () => Outcome.value .unit
      | .error m => .failure m.native).getD default
  | _, _, _ => default

end Boundary.Demo
