/-!
# Shortest decimals

The decimal with the fewest digits that reads back to a given binary floating-point number.

* `Format`: how many significand and exponent bits a floating-point format has.
* `Format.decode`: the exact value `m · 2^q` of a bit pattern.
* `shortest`: for the numbers of one to seventeen digits, the first grid that has a point in the
  interval of reals that round to the value; of two such points the nearer, and of two equally
  near ones the even one.
* `stripZeros_value`: dropping trailing zeros keeps the value.
-/

namespace Boundary.Decimal

/-- A binary floating-point format. -/
structure Format where
  /-- Bits of the significand that are stored. -/
  fractionBits : Nat
  /-- Bits of the exponent field. -/
  exponentBits : Nat
deriving Repr, DecidableEq

/-- The 64-bit format. -/
def double : Format := ⟨52, 11⟩

/-- The 32-bit format. -/
def single : Format := ⟨23, 8⟩

/-- The exponent of the smallest positive number of the format. -/
def Format.minExponent (f : Format) : Int := 2 - Nat.pow 2 (f.exponentBits - 1) - f.fractionBits

/-- A finite number `significand · 2 ^ exponent`, without its sign. -/
structure Magnitude where
  significand : Nat
  exponent : Int
  /-- Whether the next smaller number is only half as far away as the next larger one. -/
  narrowBelow : Bool
deriving Repr, DecidableEq

/-- What a bit pattern stands for. -/
inductive Decoded
  | finite (negative : Bool) (magnitude : Magnitude)
  | infinite (negative : Bool)
  | nan
deriving Repr, DecidableEq

/-- The number of a bit pattern. -/
def Format.decode (f : Format) (bits : Nat) : Decoded :=
  let fraction := bits % Nat.pow 2 f.fractionBits
  let field := bits / Nat.pow 2 f.fractionBits % Nat.pow 2 f.exponentBits
  let negative := bits / Nat.pow 2 (f.fractionBits + f.exponentBits) % 2 == 1
  if field = Nat.pow 2 f.exponentBits - 1 then
    if fraction = 0 then .infinite negative else .nan
  else if field = 0 then
    .finite negative ⟨fraction, f.minExponent, false⟩
  else
    .finite negative
      ⟨Nat.pow 2 f.fractionBits + fraction, f.minExponent + (field - 1 : Nat),
        fraction = 0 && field != 1⟩

/-- A decimal `digits · 10 ^ exponent`. -/
structure Digits where
  digits : Nat
  exponent : Int
deriving Repr, DecidableEq

/-- The decimal without trailing zeros; zero keeps its single digit. -/
def stripZeros (digits : Nat) (exponent : Int) : Digits :=
  if h : digits ≠ 0 ∧ digits % 10 = 0 then stripZeros (digits / 10) (exponent + 1)
  else ⟨digits, exponent⟩
termination_by digits
decreasing_by omega

/-- A positive fraction of natural numbers. -/
structure Ratio where
  num : Nat
  den : Nat

/-- `n · 2 ^ e` as a fraction. -/
def Ratio.scaled (n : Nat) (e : Int) : Ratio :=
  if 0 ≤ e then ⟨n * Nat.pow 2 e.toNat, 1⟩ else ⟨n, Nat.pow 2 (-e).toNat⟩

/-- The exponent of the leading decimal digit of a positive fraction, for fractions between
`10 ^ -400` and `10 ^ 400`. -/
def Ratio.decimalExponent (r : Ratio) : Int :=
  if r.den ≤ r.num then ((Nat.toDigits 10 (r.num / r.den)).length : Int) - 1
  else -(((List.range 400).find? fun j => r.den ≤ r.num * Nat.pow 10 j).getD 0 : Nat)

/-- The reals that round to a magnitude, in units of a quarter of its last place: from `low` to
`high` around `value`, with the ends included if `closed`. -/
structure Interval where
  low : Nat
  value : Nat
  high : Nat
  closed : Bool

/-- The interval of a magnitude. -/
def Magnitude.interval (m : Magnitude) : Interval :=
  ⟨4 * m.significand - (if m.narrowBelow then 1 else 2), 4 * m.significand, 4 * m.significand + 2,
    m.significand % 2 == 0⟩

/-- Whether `c` lies in the interval, when both are multiplied by `den`. -/
def Interval.holds (i : Interval) (scale c : Nat) : Bool :=
  if i.closed then i.low * scale ≤ c && c ≤ i.high * scale
  else i.low * scale < c && c < i.high * scale

/-- The point of the grid `10 ^ step` that stands for the magnitude, if there is one. -/
def Magnitude.gridPoint? (m : Magnitude) (step : Int) : Option Nat :=
  let i := m.interval
  let quarter := Ratio.scaled 1 (m.exponent - 2)
  -- both sides of `c · 10 ^ step = v · quarter` as natural numbers
  let grid := if 0 ≤ step then Nat.pow 10 step.toNat * quarter.den else quarter.den
  let scale := if 0 ≤ step then quarter.num else quarter.num * Nat.pow 10 (-step).toNat
  let below := i.value * scale / grid
  let above := below + 1
  match i.holds scale (below * grid), i.holds scale (above * grid) with
  | true, false => some below
  | false, true => some above
  | false, false => none
  | true, true =>
    let toBelow := i.value * scale - below * grid
    let toAbove := above * grid - i.value * scale
    if toBelow < toAbove then some below
    else if toAbove < toBelow then some above
    else some (if below % 2 = 0 then below else above)

/-- The shortest decimal that reads back to the magnitude. -/
def shortest (m : Magnitude) : Digits :=
  if m.significand = 0 then ⟨0, 0⟩
  else
    let leading := (Ratio.scaled m.significand m.exponent).decimalExponent
    let found := (List.range 17).findSome? fun (n : Nat) =>
      (m.gridPoint? (leading - n)).map fun d => stripZeros d (leading - n)
    found.getD ⟨m.significand, 0⟩

theorem stripZeros_value (digits : Nat) (exponent : Int) :
    ∃ k : Nat, digits = (stripZeros digits exponent).digits * Nat.pow 10 k ∧
      (stripZeros digits exponent).exponent = exponent + k := by
  fun_induction stripZeros digits exponent with
  | case1 d e h ih =>
    obtain ⟨k, hk, he⟩ := ih
    refine ⟨k + 1, ?_, by omega⟩
    have : d = d / 10 * 10 := by omega
    show d = (stripZeros (d / 10) (e + 1)).digits * (Nat.pow 10 k * 10)
    rw [← Nat.mul_assoc, ← hk]
    exact this
  | case2 d e h => exact ⟨0, by simp, by simp⟩

end Boundary.Decimal
