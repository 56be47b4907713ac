import Boundary.Proofs.Wire.Cursor

/-!
# What the readers of items accept

Each reader accepts exactly the bytes of the items that it is for, whatever follows them, and
stops behind them. An item that can be written is therefore read back, and no other bytes are read
as that item.

* `run_take_eq_ok_iff`, `run_readWord_eq_ok_iff`: bytes and words of a given size.
* `run_readPrimitive_eq_ok_iff`, `run_readPresence_eq_ok_iff`, `run_readHandle_eq_ok_iff`,
  `run_readText_eq_ok_iff`: the kinds of item.
* `run_finish_eq_ok_iff`: the end of the bytes.
-/

namespace Boundary

open Wire.ReaderOf

/-- A number has the bits that it is made of. Of a flag only whether it is zero is kept. -/
theorem PrimitiveValue.word_ofWord {p : Primitive} {w : Nat} (hp : p ≠ .bool)
    (hw : w < Wire.room p.size) : (PrimitiveValue.ofWord p w).word = w := by
  cases p with
  | bool => exact absurd rfl hp
  | i8 | i16 | i32 | i64 | u8 | u16 | u32 | u64 | f32 | f64 =>
    simp only [Primitive.size, Wire.room] at hw
    simp [PrimitiveValue.ofWord, PrimitiveValue.word]
    omega

namespace Wire

/-! ## Bytes and words -/

theorem run_take_eq_ok_iff {n : Nat} {bytes xs rest : List UInt8} :
    (take n).run bytes = (.ok xs, rest) ↔ xs.length = n ∧ bytes = xs ++ rest := by
  rw [run_take]
  constructor
  · intro h
    split at h
    · cases h
      exact ⟨List.length_take_of_le ‹_›, (List.take_append_drop n bytes).symm⟩
    · cases h
  · rintro ⟨rfl, rfl⟩
    simp

theorem run_readWord_eq_ok_iff {n w : Nat} {bytes rest : List UInt8} :
    (readWord n).run bytes = (.ok w, rest) ↔ w < room n ∧ bytes = bytesOf n w ++ rest := by
  simp only [readWord, run_bind_eq_ok_iff, run_take_eq_ok_iff, run_pure_eq_ok_iff]
  constructor
  · rintro ⟨xs, m, ⟨rfl, rfl⟩, rfl, rfl⟩
    exact ⟨ofBytes_lt xs, by rw [bytesOf_ofBytes]⟩
  · rintro ⟨hw, rfl⟩
    exact ⟨_, _, ⟨length_bytesOf n w, rfl⟩, ofBytes_bytesOf hw, rfl⟩

theorem run_finish_eq_ok_iff {bytes rest : List UInt8} {u : Unit} :
    finish.run bytes = (.ok u, rest) ↔ bytes = [] ∧ rest = [] := by
  rw [run_finish]
  constructor
  · intro h
    split at h
    · rename_i hempty
      obtain rfl := List.length_eq_zero_iff.mp hempty
      cases h
      exact ⟨rfl, rfl⟩
    · cases h
  · rintro ⟨rfl, rfl⟩
    rfl

/-! ## Items -/

theorem write_cons (i : Item) (items : List Item) : write (i :: items) = i.bytes ++ write items :=
  rfl

theorem write_singleton (i : Item) : write [i] = i.bytes := by
  rw [write_cons]
  exact List.append_nil _

theorem write_append (front back : List Item) : write (front ++ back) = write front ++ write back :=
  List.flatMap_append

/-- `readFlag` reads the byte that a flag is written as, and no others. -/
theorem run_readFlag_eq_ok_iff {fault : UInt8 → WireError} {b : Bool} {bytes rest : List UInt8} :
    (readFlag fault).run bytes = (.ok b, rest) ↔ bytes = bytesOf 1 b.toNat ++ rest := by
  unfold readFlag
  rw [run_bind_eq_ok_iff]
  constructor
  · rintro ⟨w, m, hw, h⟩
    obtain ⟨-, rfl⟩ := run_readWord_eq_ok_iff.mp hw
    unfold flagOf at h
    split at h
    · obtain ⟨rfl, rfl⟩ := run_pure_eq_ok_iff.mp h
      rfl
    · obtain ⟨rfl, rfl⟩ := run_pure_eq_ok_iff.mp h
      rfl
    · exact absurd h run_throw_ne_ok
  · rintro rfl
    refine ⟨b.toNat, rest, run_readWord_eq_ok_iff.mpr ⟨?_, rfl⟩, ?_⟩
    · cases b <;> decide
    · cases b <;> rfl

theorem run_readPresence_eq_ok_iff {present : Bool} {bytes rest : List UInt8} :
    readPresence.run bytes = (.ok present, rest) ↔
      bytes = (Item.presence present).bytes ++ rest :=
  run_readFlag_eq_ok_iff

theorem run_readHandle_eq_ok_iff {h : UInt64} {bytes rest : List UInt8} :
    readHandle.run bytes = (.ok h, rest) ↔ bytes = (Item.handle h).bytes ++ rest := by
  simp only [readHandle, run_bind_eq_ok_iff, run_readWord_eq_ok_iff, run_pure_eq_ok_iff]
  constructor
  · rintro ⟨w, m, ⟨hw, rfl⟩, rfl, rfl⟩
    have hn : (UInt64.ofNat w).toNat = w := by
      rw [UInt64.toNat_ofNat']
      exact Nat.mod_eq_of_lt hw
    simp only [Item.bytes, hn]
  · rintro rfl
    exact ⟨_, _, ⟨h.toNat_lt, rfl⟩, UInt64.ofNat_toNat, rfl⟩

/-- A value of a primitive type is read from the bytes that it is written as, and from no others:
of a flag not even other bytes than zero and one are. -/
theorem run_readPrimitive_eq_ok_iff {p : Primitive} {v : PrimitiveValue}
    {bytes rest : List UInt8} :
    (readPrimitive p).run bytes = (.ok v, rest) ↔
      v.type = p ∧ bytes = (Item.primitive v).bytes ++ rest := by
  by_cases hp : p = .bool
  · subst hp
    simp only [readPrimitive, run_bind_eq_ok_iff, run_readFlag_eq_ok_iff, run_pure_eq_ok_iff]
    constructor
    · rintro ⟨b, m, rfl, rfl, rfl⟩
      exact ⟨rfl, rfl⟩
    · rintro ⟨hv, rfl⟩
      cases v with
      | bool b => exact ⟨b, rest, rfl, rfl, rfl⟩
      | _ => cases hv
  · have hread : readPrimitive p = readWord p.size >>= fun w => pure (.ofWord p w) := by
      cases p with
      | bool => exact absurd rfl hp
      | _ => rfl
    simp only [hread, run_bind_eq_ok_iff, run_readWord_eq_ok_iff, run_pure_eq_ok_iff]
    constructor
    · rintro ⟨w, m, ⟨hw, rfl⟩, rfl, rfl⟩
      refine ⟨PrimitiveValue.type_ofWord p w, ?_⟩
      simp only [Item.bytes, PrimitiveValue.type_ofWord, PrimitiveValue.word_ofWord hp hw]
    · rintro ⟨rfl, rfl⟩
      exact ⟨_, _, ⟨v.word_lt, rfl⟩, PrimitiveValue.ofWord_word v, rfl⟩

/-- `readText` reads a text from its bytes behind their number, as long as that number can be
written. -/
theorem run_readText_eq_ok_iff {s : String} {bytes rest : List UInt8} :
    readText.run bytes = (.ok s, rest) ↔
      s.utf8ByteSize < textLimit ∧ bytes = (Item.str s).bytes ++ rest := by
  simp only [readText, run_bind_eq_ok_iff, run_readWord_eq_ok_iff, run_take_eq_ok_iff]
  constructor
  · rintro ⟨n, m, ⟨hn, rfl⟩, xs, m', ⟨rfl, rfl⟩, h⟩
    unfold textOf at h
    split at h
    · rename_i t ht
      obtain ⟨rfl, rfl⟩ := run_pure_eq_ok_iff.mp h
      obtain rfl := Text.Utf8.encode_of_decode ht
      exact ⟨hn, by simp only [Item.bytes, List.append_assoc]; rfl⟩
    · exact absurd h run_throw_ne_ok
  · rintro ⟨hs, rfl⟩
    refine ⟨s.utf8ByteSize, Text.Utf8.encode s ++ rest, ⟨hs, ?_⟩, Text.Utf8.encode s, rest,
      ⟨rfl, rfl⟩, ?_⟩
    · simp only [Item.bytes, List.append_assoc]
    · rw [textOf, Text.Utf8.decode_encode]
      rfl

end Wire

end Boundary
