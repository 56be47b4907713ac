import Boundary.Call.Error
import Boundary.FlatType
import Boundary.Wire.Item

/-!
# Flat values

* `FlatValue`: a value as it crosses the boundary.
* `FlatType.default`: what a failed call returns.
* `readView`: the text of a view.
* `FlatValue.payload?`: what an option holds; every presence byte but zero counts.
-/

namespace Boundary

/-- A value as it crosses the boundary. -/
inductive FlatValue
  | void
  | scalar (v : PrimitiveValue)
  | handle (h : Handle)
  /-- A view of bytes, or the null view. -/
  | view (bytes : Option (List UInt8))
  /-- A buffer of bytes, or the empty buffer without an address. -/
  | buffer (bytes : Option (List UInt8))
  | option (present : UInt8) (value : FlatValue)
deriving Repr, DecidableEq, Inhabited

/-- What a failed call returns: zero, the null handle, nothing. -/
def FlatType.default : FlatType → FlatValue
  | .void => .void
  | .scalar p => .scalar (.ofWord p 0)
  | .handle => .handle 0
  | .strView => .view none
  | .buffer => .buffer none
  | .option inner => .option 0 inner.default

/-- An option of a flat value. -/
def FlatValue.ofOption (t : FlatType) : Option FlatValue → FlatValue
  | some v => .option 1 v
  | none => .option 0 t.default

/-- What an option holds; its payload does not count if the presence byte is zero. -/
def FlatValue.payload? (present : UInt8) (value : FlatValue) : Option FlatValue :=
  if present = 0 then none else some value

/-- The text of a view; the null view is the empty text. -/
def readView (view : Option (List UInt8)) : Except CallError String :=
  match view with
  | none => .ok ""
  | some bytes => (Text.Utf8.decode bytes).mapError .utf8

end Boundary
