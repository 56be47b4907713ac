import Boundary.Naming
import Boundary.TypeRef

/-!
# Flat types

How values are represented where they cross the boundary, on a target with words of 64 bits.

* `FlatType`: the representations.
* `FlatType.of`: the representation of a boundary type in either direction.
* `FlatType.layout`: size and alignment; an option is a presence byte followed by its payload.
* `FlatType.native`, `FlatType.managed`: the spelling on either side.
* `roundUp_le_iff`: rounding up gives the least multiple that is large enough.
-/

namespace Boundary

/-- The way that a value goes. -/
inductive Direction
  /-- From managed to native code. -/
  | in_
  /-- From native to managed code. -/
  | out
deriving Repr, DecidableEq

/-- The representation of a value where it crosses the boundary. -/
inductive FlatType
  | void
  /-- A number. Truth values cross as bytes. -/
  | scalar (p : Primitive)
  | handle
  /-- A view of text that is lent to native code. -/
  | strView
  /-- Bytes that native code has allocated and gives away. -/
  | buffer
  | option (inner : FlatType)
deriving Repr, DecidableEq, Inhabited

/-- The representation of a `TypeRef` where it crosses in `direction`. -/
def FlatType.of (direction : Direction) : TypeRef → FlatType
  | .unit => .void
  | .primitive .bool => .scalar .u8
  | .primitive p => .scalar p
  | .str =>
    match direction with
    | .in_ => .strView
    | .out => .buffer
  | .handle _ => .handle
  | .option inner => .option (FlatType.of direction inner)
  | .result ok _ => FlatType.of .out ok
  | .unsupported _ => .void

/-! ## Layout -/

/-- The size and the alignment of a representation in bytes. -/
structure Layout where
  size : Nat
  align : Nat
deriving Repr, DecidableEq

/-- The least multiple of `align` that is at least `value`. -/
def roundUp (value align : Nat) : Nat := (value + align - 1) / align * align

/-- The layout of an option whose payload has the layout `inner`: a byte, then the payload at its
alignment. -/
def Layout.option (inner : Layout) : Layout :=
  let align := max inner.align 1
  let offset := roundUp 1 inner.align
  ⟨roundUp (offset + inner.size) align, align⟩

/-- The layout of a `FlatType`. -/
def FlatType.layout : FlatType → Layout
  | .void => ⟨0, 1⟩
  | .scalar p => ⟨p.size, p.size⟩
  | .handle => ⟨8, 8⟩
  | .strView => ⟨16, 8⟩
  | .buffer => ⟨24, 8⟩
  | .option inner => inner.layout.option

/-- `roundUp` gives the least multiple of `align` that is large enough. -/
theorem roundUp_le_iff {value align m : Nat} (h : 0 < align) :
    roundUp value align ≤ align * m ↔ value ≤ align * m := by
  unfold roundUp
  rw [Nat.mul_comm _ align, Nat.mul_le_mul_left_iff h, Nat.div_le_iff_le_mul h]
  rw [Nat.mul_comm m align]
  omega

/-! ## Spelling -/

/-- The spelling in native code, where `runtime` is the path of the support library. -/
def FlatType.native (runtime : String) : FlatType → String
  | .void => "()"
  | .scalar p => p.name
  | .handle => "u64"
  | .strView => runtime ++ "::FfiStr"
  | .buffer => runtime ++ "::RustBuffer"
  | .option inner => runtime ++ "::FfiOption<" ++ inner.native runtime ++ ">"

/-- The end of the managed name of an option of this type. -/
def FlatType.suffix : FlatType → String
  | .void => "Void"
  | .scalar p => Naming.pascal p.name
  | .handle => "Handle"
  | .strView => "Str"
  | .buffer => "Buffer"
  | .option inner => "Option" ++ inner.suffix

/-- The beginning of the managed name of an option. -/
def optionPrefix : String := "FfiOption"

/-- The spelling in managed code. -/
def FlatType.managed : FlatType → String
  | .void => "void"
  | .scalar p => p.managedName
  | .handle => "ulong"
  | .strView => "FfiStr"
  | .buffer => "RustBuffer"
  | .option inner => optionPrefix ++ inner.suffix

/-- Whether the representation is an option. -/
def FlatType.isOption : FlatType → Bool
  | .option _ => true
  | _ => false

end Boundary
