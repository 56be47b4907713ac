import Boundary.Wire.Item

/-!
# Reading the serialized form

A reader goes through bytes from the front, by the position of the next one. It can be used after an
error: a word that is cut short moves it nowhere, and a faulty item of known length is passed over.

* `WireError`: why bytes are no serialized form.
* `Wire.Cursor`: bytes and a position in them.
* `Wire.ReaderOf`, `Wire.Reader`: what reads at a cursor. Nothing keeps the position from lying
  behind the end, so a subtraction may underflow and a slice be out of bounds; there is no outcome
  then, since the program is aborted.
* `Wire.read`: reads an item.
* `Wire.finish`: nothing may be left.
-/

namespace Boundary

/-- Why bytes are no serialized form, or why an `Item` has none. -/
inductive WireError
  | unexpectedEnd (needed remaining : Nat)
  | invalidBool (byte : UInt8)
  | invalidPresence (byte : UInt8)
  | invalidUtf8
  | textTooLong (length : Nat)
  | trailingBytes (count : Nat)
deriving Repr, DecidableEq, Inhabited

/-- The wording of a `WireError`. -/
def WireError.message : WireError → String
  | .unexpectedEnd needed remaining =>
    s!"unexpected end of buffer: needed {needed} bytes, {remaining} left"
  | .invalidBool byte => s!"invalid bool byte {byte}"
  | .invalidPresence byte => s!"invalid presence tag {byte}"
  | .invalidUtf8 => "string payload is not valid UTF-8"
  | .textTooLong length => s!"string of {length} bytes does not fit a u32 length prefix"
  | .trailingBytes count => s!"{count} trailing bytes after the encoded value"

namespace Wire

/-- All the `bytes` of a reader, and the position `pos` of the next one that is read. -/
structure Cursor where
  bytes : List UInt8
  pos : Nat := 0
deriving Repr, DecidableEq

/-- The number of `bytes` behind `pos`. The subtraction underflows if `pos` is behind the end, which
aborts. -/
def Cursor.remaining? (c : Cursor) : Option Nat :=
  if c.pos ≤ c.bytes.length then some (c.bytes.length - c.pos) else none

/-- The bytes from `start` to `stop`, which must be in this order and in bounds. -/
def Cursor.slice? (c : Cursor) (start stop : Nat) : Option (List UInt8) :=
  if start ≤ stop ∧ stop ≤ c.bytes.length then some ((c.bytes.drop start).take (stop - start))
  else none

/-- What reads at a `Cursor` and may fail with an error of type `ε`, or abort. It moves the cursor
also if it fails. -/
abbrev ReaderOf (ε : Type) := ExceptT ε (StateT Cursor Option)

/-- What reads items, with the errors of `WireError`. -/
abbrev Reader := ReaderOf WireError

/-- The outcome of `x` at the cursor `c`, and the cursor afterwards; nothing if `x` aborts. -/
def ReaderOf.resume {ε α : Type} (x : ReaderOf ε α) (c : Cursor) : Option (Except ε α × Cursor) :=
  StateT.run (ExceptT.run x) c

/-- Reads from the beginning of bytes; the bytes that are left stand beside the result. No reader
of this project is aborted here (see `Wire.Sound`), so it does not matter what stands for that. -/
def ReaderOf.run {ε α : Type} [Inhabited ε] (x : ReaderOf ε α) (bytes : List UInt8) :
    Except ε α × List UInt8 :=
  match x.resume { bytes } with
  | some (result, c) => (result, c.bytes.drop c.pos)
  | none => (.error default, [])

/-- The next `needed` bytes, or none of them. -/
def take (needed : Nat) : Reader (List UInt8) := do
  let c ← get
  let remaining ← c.remaining?
  if remaining < needed then throw (.unexpectedEnd needed remaining)
  else
    let bytes ← c.slice? c.pos (c.pos + needed)
    set { c with pos := c.pos + needed }
    pure bytes

/-- A number of `size` bytes. -/
def readWord (size : Nat) : Reader Nat := do
  let bytes ← take size
  pure (ofBytes bytes)

/-- The flag that a byte stands for; any other byte than zero and one is a `fault`. -/
def flagOf (fault : UInt8 → WireError) : Nat → Reader Bool
  | 0 => pure false
  | 1 => pure true
  | w => throw (fault (UInt8.ofNat w))

/-- A byte that is zero or one, as `flagOf` demands. -/
def readFlag (fault : UInt8 → WireError) : Reader Bool := do
  let w ← readWord 1
  flagOf fault w

/-- A primitive value. -/
def readPrimitive : Primitive → Reader PrimitiveValue
  | .bool => do
    let b ← readFlag .invalidBool
    pure (.bool b)
  | p => do
    let w ← readWord p.size
    pure (.ofWord p w)

/-- Whether the payload of an option follows. -/
def readPresence : Reader Bool := readFlag .invalidPresence

/-- A handle. -/
def readHandle : Reader UInt64 := do
  let w ← readWord 8
  pure (UInt64.ofNat w)

/-- The text that `bytes` make up, if they are UTF-8. -/
def textOf (bytes : List UInt8) : Reader String :=
  match Text.Utf8.decode bytes with
  | .ok s => pure s
  | .error _ => throw .invalidUtf8

/-- A text behind the number of its bytes. -/
def readText : Reader String := do
  let length ← readWord 4
  let bytes ← take length
  textOf bytes

/-- An item of the given `ItemKind`. -/
def read : ItemKind → Reader Item
  | .primitive p => do
    let v ← readPrimitive p
    pure (.primitive v)
  | .presence => do
    let b ← readPresence
    pure (.presence b)
  | .handle => do
    let h ← readHandle
    pure (.handle h)
  | .str => do
    let s ← readText
    pure (.str s)

/-- Nothing may be left behind the position. -/
def finish : Reader Unit := do
  let c ← get
  let remaining ← c.remaining?
  if remaining = 0 then pure () else throw (.trailingBytes remaining)

/-- Whether the item `i` can be written: a text must be shorter than `textLimit`. -/
def Item.check (i : Item) : Except WireError Unit :=
  match i with
  | .str s => if s.utf8ByteSize < textLimit then .ok () else .error (.textTooLong s.utf8ByteSize)
  | _ => .ok ()

end Wire

end Boundary
