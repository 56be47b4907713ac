import Boundary.Json.Position

/-!
# Numbers of a JSON text

A number without fraction and exponent that fits 64 bits is an integer; every other number is a
64-bit floating-point number, computed from as many leading digits as fit an unsigned word.

* `Number`: an integer or the bits of a floating-point number. No text is read as a 32-bit one;
  such a number is only written.
* `accumulate`: the value of leading digits up to the greatest unsigned word.
* `ofParts?`: `significand · 10 ^ exponent` as the word rounded to a double, then multiplied or
  divided by the double nearest to the power of ten; `none` above the greatest double.
* `scanNumber`: the number at the head of a text.
-/

namespace Boundary.Json

/-- A number: an integer between `-2^63` and `2^64 - 1`, or the bits of a floating-point number. -/
inductive Number
  | int (n : Int)
  | float (bits : UInt64)
  | single (bits : UInt32)
deriving Repr, DecidableEq

/-- The greatest unsigned 64-bit word. -/
def wordMax : Nat := 0xFFFFFFFFFFFFFFFF

/-- The greatest exponent that is read digit by digit. -/
def exponentMax : Nat := 0x7FFFFFFF

/-- The value of a decimal digit. -/
def digitValue (c : Char) : Nat := c.toNat - '0'.toNat

/-- Extends `value` by the digits for as long as the result does not exceed `limit`, and gives the
digits that are left. -/
def accumulate (limit value : Nat) : List Char → Nat × List Char
  | [] => (value, [])
  | c :: rest =>
    if value * 10 + digitValue c ≤ limit then accumulate limit (value * 10 + digitValue c) rest
    else (value, c :: rest)

/-- The double nearest to `10 ^ n`. -/
def powerOfTen (n : Nat) : Float := Float.ofScientific 1 false n

/-- `significand · 10 ^ exponent` with the sign, or `none` if it exceeds the greatest double. -/
def ofParts? (negative : Bool) (significand : Nat) (exponent : Int) : Option Number :=
  let sign (x : Float) : Number := .float (if negative then -x else x).toBits
  let f := Float.ofNat significand
  if significand = 0 then some (sign f)
  else if 308 < exponent then none
  else if 0 ≤ exponent then
    let product := f * powerOfTen exponent.toNat
    if product.isInf then none else some (sign product)
  else if -308 ≤ exponent then some (sign (f / powerOfTen (-exponent).toNat))
  else if -616 ≤ exponent then
    some (sign (f / powerOfTen 308 / powerOfTen (-exponent - 308).toNat))
  else some (sign 0)

/-- What a scan finds at the head of a text: a result, the place behind it, and how many
characters it took. -/
structure Scan (α : Type) where
  result : Except SyntaxError α
  stop : Position
  used : Nat

/-- A scan that fails. -/
def Scan.fail {α : Type} (cause : SyntaxCause) (p : Position) : Scan α := ⟨.error ⟨cause, p⟩, p, 0⟩

/-- The end of a number whose value is `significand · 10 ^ exponent`. -/
def finishParts (negative : Bool) (significand : Nat) (exponent : Int) (stop : Position)
    (used : Nat) : Scan Number :=
  match ofParts? negative significand exponent with
  | some n => ⟨.ok n, stop, used⟩
  | none => .fail .numberOutOfRange stop

/-- The place behind `n` characters of one byte each. -/
def Position.forward (p : Position) (n : Nat) : Position := ⟨p.line, p.column + n⟩

/-- The rest of a number from behind the mark of its exponent. -/
def scanExponent (negative : Bool) (significand : Nat) (exponent : Int) (p : Position)
    (used : Nat) (cs : List Char) : Scan Number :=
  let (down, signs, cs) : Bool × Nat × List Char := match cs with
    | '+' :: rest => (false, 1, rest)
    | '-' :: rest => (true, 1, rest)
    | _ => (false, 0, cs)
  let p := p.forward signs
  match cs with
  | [] => .fail .endInValue p
  | c :: _ =>
    if c.isDigit then
      let ds := cs.takeWhile Char.isDigit
      let stop := p.forward ds.length
      let used := used + signs + ds.length
      match accumulate exponentMax 0 ds with
      | (value, []) =>
        finishParts negative significand (if down then exponent - value else exponent + value) stop
          used
      | (_, left) =>
        if significand ≠ 0 && !down then
          .fail .numberOutOfRange (p.forward (ds.length - left.length + 1))
        else ⟨.ok (.float (if negative then -0.0 else 0.0 : Float).toBits), stop, used⟩
    else .fail .invalidNumber (p.at_ c)

/-- The rest of a number from behind its decimal point. -/
def scanFraction (negative : Bool) (significand : Nat) (exponent : Int) (p : Position)
    (used : Nat) (cs : List Char) : Scan Number :=
  let ds := cs.takeWhile Char.isDigit
  let rest := cs.dropWhile Char.isDigit
  let (value, left) := accumulate wordMax significand ds
  let exponent := exponent - (ds.length - left.length : Nat)
  let stop := p.forward ds.length
  let used := used + ds.length
  match ds, rest with
  | [], [] => .fail .endInValue stop
  | [], c :: _ => .fail .invalidNumber (stop.at_ c)
  | _, c :: rest =>
    if c = 'e' || c = 'E' then scanExponent negative value exponent (stop.forward 1) (used + 1) rest
    else finishParts negative value exponent stop used
  | _, [] => finishParts negative value exponent stop used

/-- An integer of the given sign, or a floating-point number if it fits no 64-bit integer. Minus
zero is a floating-point number. -/
def signedInteger (negative : Bool) (significand : Nat) : Number :=
  if !negative then .int significand
  else if significand ≠ 0 && significand ≤ 0x8000000000000000 then .int (-(significand : Int))
  else .float (-(Float.ofNat significand)).toBits

/-- The rest of a number from behind its sign, when it starts with the digits `ds`. -/
def scanInteger (negative : Bool) (p : Position) (used : Nat) (ds rest : List Char) :
    Scan Number :=
  let (value, left) := accumulate wordMax 0 ds
  let stop := p.forward ds.length
  let used := used + ds.length
  match rest with
  | '.' :: rest => scanFraction negative value left.length (stop.forward 1) (used + 1) rest
  | c :: rest' =>
    if c = 'e' || c = 'E' then
      scanExponent negative value left.length (stop.forward 1) (used + 1) rest'
    else if left.isEmpty then ⟨.ok (signedInteger negative value), stop, used⟩
    else finishParts negative value left.length stop used
  | [] =>
    if left.isEmpty then ⟨.ok (signedInteger negative value), stop, used⟩
    else finishParts negative value left.length stop used

/-- The number at the head of a text that starts with a digit or a minus sign. -/
def scanNumber (p : Position) (cs : List Char) : Scan Number :=
  let (negative, signs, cs) : Bool × Nat × List Char := match cs with
    | '-' :: rest => (true, 1, rest)
    | _ => (false, 0, cs)
  let p := p.forward signs
  match cs with
  | [] => .fail .endInValue p
  | '0' :: rest =>
    match rest with
    | c :: _ =>
      if c.isDigit then .fail .invalidNumber ((p.forward 1).at_ c)
      else scanInteger negative p signs ['0'] rest
    | [] => scanInteger negative p signs ['0'] rest
  | c :: _ =>
    if c.isDigit then
      scanInteger negative p signs (cs.takeWhile Char.isDigit) (cs.dropWhile Char.isDigit)
    else .fail .invalidNumber (p.at_ c)

end Boundary.Json
