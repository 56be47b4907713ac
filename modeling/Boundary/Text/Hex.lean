/-!
# Hexadecimal bytes

Bytes written as pairs of hexadecimal digits.

* `Hex.encode`: two lower-case digits a byte.
* `Hex.digitValue?`: the value of a digit of either case.
* `Hex.pack?`: digit values joined two by two.
-/

namespace Boundary.Text.Hex

/-- The lower-case digit of a value below sixteen. -/
def digitChar (n : Nat) : Char := Nat.digitChar n

/-- Two lower-case digits for a byte, the high half first. -/
def ofByte (b : UInt8) : List Char := [digitChar (b.toNat / 16), digitChar (b.toNat % 16)]

/-- The bytes as lower-case digits. -/
def encode (bytes : List UInt8) : String := String.ofList (bytes.flatMap ofByte)

/-- The value of a hexadecimal digit of either case. -/
def digitValue? (c : Char) : Option Nat :=
  if '0' ≤ c ∧ c ≤ '9' then some (c.toNat - '0'.toNat)
  else if 'a' ≤ c ∧ c ≤ 'f' then some (c.toNat - 'a'.toNat + 10)
  else if 'A' ≤ c ∧ c ≤ 'F' then some (c.toNat - 'A'.toNat + 10)
  else none

/-- Digit values joined two by two into bytes; `none` if one is left over. -/
def pack? : List Nat → Option (List UInt8)
  | [] => some []
  | [_] => none
  | high :: low :: rest => (pack? rest).map (UInt8.ofNat (16 * high + low) :: ·)

/-- The bytes written by a text of digits, none of them blank. -/
def decode? (s : String) : Option (List UInt8) := (s.toList.mapM digitValue?).bind pack?

theorem pack?_eq_none_iff (ds : List Nat) : pack? ds = none ↔ ds.length % 2 = 1 := by
  fun_induction pack? ds with
  | case1 => simp
  | case2 => simp
  | case3 _ _ rest ih => simp [ih]; omega

end Boundary.Text.Hex
