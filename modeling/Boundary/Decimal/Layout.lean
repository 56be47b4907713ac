import Boundary.Decimal.Shortest

/-!
# How a decimal is written

* `Layout`: which exponents are written positionally.
* `Layout.render`: the text of a finite number by its shortest digits.
* `doubleLayout`, `singleLayout`: the layouts of 64-bit and 32-bit numbers.
-/

namespace Boundary.Decimal

/-- The exponents of the leading digit for which a number is written positionally. -/
structure Layout where
  least : Int
  greatest : Int
deriving Repr, DecidableEq

/-- 64-bit numbers are positional from `0.00001` up to sixteen digits before the point. -/
def doubleLayout : Layout := ⟨-5, 15⟩

/-- 32-bit numbers are positional from `0.000001` up to thirteen digits before the point. -/
def singleLayout : Layout := ⟨-6, 12⟩

/-- `n` zeros. -/
def zeros (n : Nat) : List Char := List.replicate n '0'

/-- Digits whose first one stands for `10 ^ leading`, written with a point and at least one digit
on either side of it. -/
def positional (ds : List Char) (leading : Int) : List Char :=
  if leading < 0 then '0' :: '.' :: (zeros (-leading - 1).toNat ++ ds)
  else
    let whole := leading.toNat + 1
    if ds.length ≤ whole then ds ++ zeros (whole - ds.length) ++ ['.', '0']
    else ds.take whole ++ '.' :: ds.drop whole

/-- Digits whose first one stands for `10 ^ leading`, written with one digit before the point and
a signed exponent. -/
def scientific (ds : List Char) (leading : Int) : List Char :=
  let tail := match ds.drop 1 with
    | [] => []
    | rest => '.' :: rest
  let sign := if leading < 0 then '-' else '+'
  ds.take 1 ++ tail ++ 'e' :: sign :: Nat.toDigits 10 leading.natAbs

/-- The text of a finite number. -/
def Layout.render (layout : Layout) (negative : Bool) (m : Magnitude) : String :=
  let d := shortest m
  let ds := Nat.toDigits 10 d.digits
  let leading := d.exponent + (ds.length - 1 : Nat)
  let body :=
    if layout.least ≤ leading && leading ≤ layout.greatest then positional ds leading
    else scientific ds leading
  String.ofList (if negative then '-' :: body else body)

/-- The text of a bit pattern; `none` for the infinities and for what is not a number. -/
def Layout.text? (layout : Layout) (format : Format) (bits : Nat) : Option String :=
  match format.decode bits with
  | .finite negative m => some (layout.render negative m)
  | _ => none

/-- The text of a 64-bit number. -/
def doubleText? (bits : UInt64) : Option String := doubleLayout.text? double bits.toNat

/-- The text of a 32-bit number. -/
def singleText? (bits : UInt32) : Option String := singleLayout.text? single bits.toNat

end Boundary.Decimal
