import Boundary.Primitive
import Boundary.Text.Utf8

/-!
# Items of the serialized form

Values that cross the boundary as bytes are sequences of items.

* `PrimitiveValue`: a value of a primitive type.
* `Wire.Item`, `Wire.Item.bytes`: an item and its bytes. Words are written with their least byte
  first; a text follows its length in four bytes.
* `Wire.ofBytes_bytesOf`: a word reads back if it fits the number of its bytes.
-/

namespace Boundary

/-- A value of a `Primitive` type. Floating-point numbers are given by their bits. -/
inductive PrimitiveValue
  | bool (b : Bool)
  | i8 (n : Int8)
  | i16 (n : Int16)
  | i32 (n : Int32)
  | i64 (n : Int64)
  | u8 (n : UInt8)
  | u16 (n : UInt16)
  | u32 (n : UInt32)
  | u64 (n : UInt64)
  | f32 (bits : UInt32)
  | f64 (bits : UInt64)
deriving Repr, DecidableEq

/-- The `Primitive` type of a value. -/
def PrimitiveValue.type : PrimitiveValue → Primitive
  | .bool _ => .bool
  | .i8 _ => .i8
  | .i16 _ => .i16
  | .i32 _ => .i32
  | .i64 _ => .i64
  | .u8 _ => .u8
  | .u16 _ => .u16
  | .u32 _ => .u32
  | .u64 _ => .u64
  | .f32 _ => .f32
  | .f64 _ => .f64

/-- The bits of a primitive value, read as a natural number. -/
def PrimitiveValue.word : PrimitiveValue → Nat
  | .bool b => b.toNat
  | .i8 n => n.toUInt8.toNat
  | .i16 n => n.toUInt16.toNat
  | .i32 n => n.toUInt32.toNat
  | .i64 n => n.toUInt64.toNat
  | .u8 n => n.toNat
  | .u16 n => n.toNat
  | .u32 n => n.toNat
  | .u64 n => n.toNat
  | .f32 bits => bits.toNat
  | .f64 bits => bits.toNat

/-- The value of a `Primitive` type with the bits of the word; every word but zero is true. -/
def PrimitiveValue.ofWord : Primitive → Nat → PrimitiveValue
  | .bool, w => .bool (w ≠ 0)
  | .i8, w => .i8 (UInt8.ofNat w).toInt8
  | .i16, w => .i16 (UInt16.ofNat w).toInt16
  | .i32, w => .i32 (UInt32.ofNat w).toInt32
  | .i64, w => .i64 (UInt64.ofNat w).toInt64
  | .u8, w => .u8 (UInt8.ofNat w)
  | .u16, w => .u16 (UInt16.ofNat w)
  | .u32, w => .u32 (UInt32.ofNat w)
  | .u64, w => .u64 (UInt64.ofNat w)
  | .f32, w => .f32 (UInt32.ofNat w)
  | .f64, w => .f64 (UInt64.ofNat w)

theorem PrimitiveValue.ofWord_word (v : PrimitiveValue) : ofWord v.type v.word = v := by
  cases v <;> simp [type, word, ofWord]

theorem PrimitiveValue.type_ofWord (p : Primitive) (w : Nat) : (ofWord p w).type = p := by
  cases p <;> rfl

/-- How many numbers can be written in so many bytes; `bytesOf` writes them. -/
def Wire.room : Nat → Nat
  | 0 => 1
  | n + 1 => 256 * room n

theorem PrimitiveValue.word_lt (v : PrimitiveValue) : v.word < Wire.room v.type.size := by
  cases v with
  | bool b => cases b <;> decide
  | i8 n => exact n.toUInt8.toNat_lt
  | i16 n => exact n.toUInt16.toNat_lt
  | i32 n => exact n.toUInt32.toNat_lt
  | i64 n => exact n.toUInt64.toNat_lt
  | u8 n => exact n.toNat_lt
  | u16 n => exact n.toNat_lt
  | u32 n => exact n.toNat_lt
  | u64 n => exact n.toNat_lt
  | f32 bits => exact bits.toNat_lt
  | f64 bits => exact bits.toNat_lt

namespace Wire

/-- The `count` least bytes of a number, the least one first. -/
def bytesOf : (count : Nat) → Nat → List UInt8
  | 0, _ => []
  | n + 1, w => UInt8.ofNat w :: bytesOf n (w / 256)

/-- The number whose bytes are given, the least one first. -/
def ofBytes : List UInt8 → Nat
  | [] => 0
  | b :: rest => b.toNat + 256 * ofBytes rest

theorem length_bytesOf (n w : Nat) : (bytesOf n w).length = n := by
  induction n generalizing w with
  | zero => rfl
  | succ n ih => simp [bytesOf, ih]

theorem ofBytes_lt (bytes : List UInt8) : ofBytes bytes < room bytes.length := by
  induction bytes with
  | nil => simp [ofBytes, room]
  | cons b rest ih =>
    have hb := b.toNat_lt
    simp only [ofBytes, List.length_cons, room]
    omega

theorem ofBytes_bytesOf {n w : Nat} (h : w < room n) : ofBytes (bytesOf n w) = w := by
  induction n generalizing w with
  | zero => simp_all [ofBytes, bytesOf, room]
  | succ n ih =>
    have hd : w / 256 < room n := by
      simp only [room] at h
      omega
    simp only [bytesOf, ofBytes, ih hd, UInt8.toNat_ofNat']
    omega

theorem bytesOf_ofBytes (bytes : List UInt8) : bytesOf bytes.length (ofBytes bytes) = bytes := by
  induction bytes with
  | nil => rfl
  | cons b rest ih =>
    have hb := b.toNat_lt
    have hq : (b.toNat + 256 * ofBytes rest) / 256 = ofBytes rest := by omega
    have hr : UInt8.ofNat (b.toNat + 256 * ofBytes rest) = b := by
      apply UInt8.toNat_inj.1
      simp only [UInt8.toNat_ofNat']
      omega
    simp [bytesOf, ofBytes, hq, hr, ih]

/-- What serialized forms are made of. -/
inductive Item
  | primitive (v : PrimitiveValue)
  /-- Whether the payload of an option follows. -/
  | presence (present : Bool)
  | handle (h : UInt64)
  | str (s : String)
deriving Repr, DecidableEq

/-- The kinds of `Item`, by which they are read. -/
inductive ItemKind
  | primitive (p : Primitive)
  | presence
  | handle
  | str
deriving Repr, DecidableEq

/-- The `ItemKind` of an item. -/
def Item.kind : Item → ItemKind
  | .primitive v => .primitive v.type
  | .presence _ => .presence
  | .handle _ => .handle
  | .str _ => .str

/-- The number of bytes that a text must stay below to be written. -/
def textLimit : Nat := 0x100000000

/-- The bytes of an `Item`. -/
def Item.bytes : Item → List UInt8
  | .primitive v => bytesOf v.type.size v.word
  | .presence present => bytesOf 1 present.toNat
  | .handle h => bytesOf 8 h.toNat
  | .str s => bytesOf 4 s.utf8ByteSize ++ Text.Utf8.encode s

/-- The bytes of `items` in a row. -/
def write (items : List Item) : List UInt8 := items.flatMap Item.bytes

end Wire

end Boundary
