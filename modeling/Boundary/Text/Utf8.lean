/-!
# UTF-8

Bytes as text, with the place of the first fault when they are not well formed.

* `Utf8.encode`: the bytes of a text.
* `Utf8.Fault`: how many bytes are well formed, and how many of the following ones belong to a
  sequence that can never be completed; `none` when the bytes end inside a sequence.
* `Utf8.decode`: the text of well-formed bytes, or the first fault.
* `decode_encode`, `encode_of_decode`: decoding accepts exactly what encoding produces.
-/

namespace Boundary.Text.Utf8

/-- The bytes of a text. -/
def encode (s : String) : List UInt8 := s.toUTF8.data.toList

/-- Where bytes stop being well-formed UTF-8. -/
structure Fault where
  /-- Number of bytes before the fault. -/
  validUpTo : Nat
  /-- Number of bytes that make up the malformed sequence, or `none` if the bytes end inside it. -/
  length : Option Nat
deriving Repr, DecidableEq

/-- The wording of a fault. -/
def Fault.message (f : Fault) : String :=
  match f.length with
  | some n => s!"invalid utf-8 sequence of {n} bytes from index {f.validUpTo}"
  | none => s!"incomplete utf-8 byte sequence from index {f.validUpTo}"

/-- Whether the byte may follow the first byte of a sequence. -/
def isContinuation (b : UInt8) : Bool := 0x80 ≤ b && b ≤ 0xBF

/-- The bytes allowed after the leading byte `lead` of a sequence: the ones for the second place,
then ordinary continuations. `none` if no sequence starts with `lead`. -/
def continuations (lead : UInt8) : Option (List (UInt8 → Bool)) :=
  if lead < 0x80 then some []
  else if 0xC2 ≤ lead && lead ≤ 0xDF then some [isContinuation]
  else if lead = 0xE0 then some [fun b => 0xA0 ≤ b && b ≤ 0xBF, isContinuation]
  else if lead = 0xED then some [fun b => 0x80 ≤ b && b ≤ 0x9F, isContinuation]
  else if 0xE1 ≤ lead && lead ≤ 0xEF then some [isContinuation, isContinuation]
  else if lead = 0xF0 then some [fun b => 0x90 ≤ b && b ≤ 0xBF, isContinuation, isContinuation]
  else if lead = 0xF4 then some [fun b => 0x80 ≤ b && b ≤ 0x8F, isContinuation, isContinuation]
  else if 0xF1 ≤ lead && lead ≤ 0xF3 then some [isContinuation, isContinuation, isContinuation]
  else none

/-- The scan for the first fault. `start` bytes are well formed; the sequence under way has `read`
bytes so far and still expects `pending`. -/
def scan (start read : Nat) : List (UInt8 → Bool) → List UInt8 → Option Fault
  | [], [] => none
  | _ :: _, [] => some ⟨start, none⟩
  | [], b :: rest =>
    match continuations b with
    | none => some ⟨start + read, some 1⟩
    | some pending => scan (start + read) 1 pending rest
  | ok :: pending, b :: rest =>
    if ok b then scan start (read + 1) pending rest else some ⟨start, some read⟩

/-- The first fault of the bytes, if they are not well formed. -/
def fault? (bytes : List UInt8) : Option Fault := scan 0 0 [] bytes

/-- The text of well-formed bytes, or the first fault. -/
def decode (bytes : List UInt8) : Except Fault String :=
  match String.fromUTF8? ⟨bytes.toArray⟩ with
  | some s => .ok s
  | none => .error ((fault? bytes).getD ⟨bytes.length, none⟩)

theorem decode_encode (s : String) : decode (encode s) = .ok s := by
  have h : String.fromUTF8? ⟨(encode s).toArray⟩ = some s := by
    simp [encode, String.fromUTF8?, String.fromUTF8, s.isValidUTF8]
  simp [decode, h]

theorem encode_of_decode {bytes : List UInt8} {s : String} (h : decode bytes = .ok s) :
    encode s = bytes := by
  unfold decode at h
  split at h
  · rename_i t ht
    obtain rfl : t = s := by simpa using h
    unfold String.fromUTF8? at ht
    split at ht
    · obtain rfl := Option.some.inj ht
      simp [encode, String.fromUTF8]
    · exact absurd ht (by simp)
  · simp at h

end Boundary.Text.Utf8
