import Mathlib.Data.List.Induction
import Boundary.Proofs.Wire.Reading

/-!
# Positions of a reader

A reader may be used after an error. Where it then stands is told by the error: bytes that are too
few are not touched, and a faulty item of known length is passed over. The lengths of texts come
from the bytes themselves, and no length leads the reader past their end. So `Cursor.remaining?`
never underflows, and `Cursor.slice?` is never asked for bytes that there are not.

* `ItemKind.width?`: the number of bytes of an item, unless the item tells it.
* `Fails`: how reading an item fails, and how many bytes that consumes.
* `run_read_eq_ok_iff`, `run_read_eq_error_iff`: a read succeeds on the bytes of an item and fails
  on all others, in exactly these ways.
* `resume_read`: **what one read does at a cursor**, whether it fails or not.
* `afterReads`: the cursor behind reads in a row; `exists_afterReads`: it is in the bytes.
* `position_of_reads`: where a reader stands after any reads, failed ones included.
-/

namespace Boundary.Wire

open ReaderOf

/-! ## Failures -/

/-- The number of bytes of the items of a kind, if it is fixed; the length of a text is told by its
first bytes. -/
def ItemKind.width? : ItemKind → Option Nat
  | .primitive p => some p.size
  | .presence => some 1
  | .handle => some 8
  | .str => none

/-- How an item of a kind cannot be read from the front of some bytes: the error, and how many bytes
are consumed. -/
inductive Fails : ItemKind → List UInt8 → WireError → Nat → Prop
  /-- There are fewer bytes than the `width` of the item, and none is consumed. -/
  | cutWord {k : ItemKind} {width : Nat} {bytes : List UInt8} (hk : k.width? = some width)
      (hcut : bytes.length < width) : Fails k bytes (.unexpectedEnd width bytes.length) 0
  | badBool {b : UInt8} {rest : List UInt8} (hb : 1 < b) :
      Fails (.primitive .bool) (b :: rest) (.invalidBool b) 1
  | badPresence {b : UInt8} {rest : List UInt8} (hb : 1 < b) :
      Fails .presence (b :: rest) (.invalidPresence b) 1
  /-- There are too few bytes for the length of a text, and none is consumed. -/
  | cutLength {bytes : List UInt8} (hcut : bytes.length < 4) :
      Fails .str bytes (.unexpectedEnd 4 bytes.length) 0
  /-- There are fewer bytes than `length` says, and only those of `length` are consumed. -/
  | cutText {length body : List UInt8} (hlength : length.length = 4)
      (hcut : body.length < ofBytes length) :
      Fails .str (length ++ body) (.unexpectedEnd (ofBytes length) body.length) 4
  | badText {length body rest : List UInt8} (hlength : length.length = 4)
      (hbody : body.length = ofBytes length) (hbad : ∀ s, Text.Utf8.encode s ≠ body) :
      Fails .str (length ++ (body ++ rest)) .invalidUtf8 (4 + body.length)

/-- No more than `bytes` is consumed by a read that `Fails`. -/
theorem Fails.le_length {k : ItemKind} {bytes : List UInt8} {e : WireError} {n : Nat}
    (h : Fails k bytes e n) : n ≤ bytes.length := by
  cases h <;> simp <;> omega

section Reads

variable {bytes rest : List UInt8} {e : WireError}

/-! ## Single reads -/

theorem run_take_eq_error_iff {n : Nat} :
    (take n).run bytes = (.error e, rest) ↔
      bytes.length < n ∧ e = .unexpectedEnd n bytes.length ∧ rest = bytes := by
  rw [run_take]
  constructor
  · intro h
    split at h
    · cases h
    · rename_i hle
      cases h
      exact ⟨Nat.not_le.mp hle, rfl, rfl⟩
  · rintro ⟨hlt, rfl, rfl⟩
    rw [if_neg (Nat.not_le.mpr hlt)]

theorem run_readWord_eq_error_iff {n : Nat} :
    (readWord n).run bytes = (.error e, rest) ↔
      bytes.length < n ∧ e = .unexpectedEnd n bytes.length ∧ rest = bytes := by
  rw [readWord, run_bind_eq_error_iff, run_take_eq_error_iff, or_iff_left]
  rintro ⟨xs, m, -, h⟩
  exact run_pure_ne_error h

/-- A byte that is neither zero nor one is consumed by `readFlag`. -/
theorem run_readFlag_eq_error_iff {fault : UInt8 → WireError} :
    (readFlag fault).run bytes = (.error e, rest) ↔
      (bytes.length < 1 ∧ e = .unexpectedEnd 1 bytes.length ∧ rest = bytes) ∨
        ∃ b, 1 < b ∧ bytes = b :: rest ∧ e = fault b := by
  rw [readFlag, run_bind_eq_error_iff, run_readWord_eq_error_iff]
  refine or_congr_right ?_
  constructor
  · rintro ⟨w, m, hw, h⟩
    obtain ⟨hroom, rfl⟩ := run_readWord_eq_ok_iff.mp hw
    unfold flagOf at h
    split at h
    · exact absurd h run_pure_ne_error
    · exact absurd h run_pure_ne_error
    · rename_i h0 h1
      obtain ⟨rfl, rfl⟩ := run_throw_eq_error_iff.mp h
      refine ⟨UInt8.ofNat w, ?_, rfl, rfl⟩
      have hbyte : w < 256 := hroom
      rw [UInt8.lt_iff_toNat_lt, UInt8.toNat_ofNat', Nat.mod_eq_of_lt hbyte]
      exact Nat.one_lt_iff_ne_zero_and_ne_one.mpr ⟨h0, h1⟩
  · rintro ⟨b, hb, rfl, rfl⟩
    have hword : (readWord 1).run (b :: rest) = (.ok b.toNat, rest) := by
      refine run_readWord_eq_ok_iff.mpr ⟨b.toNat_lt, ?_⟩
      simp [bytesOf]
    refine ⟨b.toNat, rest, hword, ?_⟩
    rw [UInt8.lt_iff_toNat_lt] at hb
    have hb' : 1 < b.toNat := hb
    unfold flagOf
    split
    · omega
    · omega
    · rw [UInt8.ofNat_toNat]
      rfl

theorem run_bind_pure_eq_error_iff {α β : Type} {x : Reader α} [Sound x] {f : α → β} :
    (x >>= fun a => pure (f a)).run bytes = (.error e, rest) ↔ x.run bytes = (.error e, rest) := by
  rw [run_bind_eq_error_iff, or_iff_left]
  rintro ⟨a, m, -, h⟩
  exact run_pure_ne_error h

private theorem run_readPrimitive_eq_error_iff {p : Primitive} :
    (readPrimitive p).run bytes = (.error e, rest) ↔
      (bytes.length < p.size ∧ e = .unexpectedEnd p.size bytes.length ∧ rest = bytes) ∨
        p = .bool ∧ ∃ b, 1 < b ∧ bytes = b :: rest ∧ e = .invalidBool b := by
  by_cases hp : p = .bool
  · subst hp
    rw [readPrimitive, run_bind_pure_eq_error_iff, run_readFlag_eq_error_iff]
    simp [Primitive.size]
  · have hread : readPrimitive p = readWord p.size >>= fun w => pure (.ofWord p w) := by
      cases p with
      | bool => exact absurd rfl hp
      | _ => rfl
    rw [hread, run_bind_pure_eq_error_iff, run_readWord_eq_error_iff]
    simp [hp]

private theorem run_readText_eq_error_iff :
    readText.run bytes = (.error e, rest) ↔ ∃ n, Fails .str bytes e n ∧ rest = bytes.drop n := by
  rw [readText, run_bind_eq_error_iff, run_readWord_eq_error_iff]
  constructor
  · rintro (⟨hcut, rfl, rfl⟩ | ⟨n, m, hlength, h⟩)
    · exact ⟨0, .cutLength hcut, rfl⟩
    obtain ⟨hroom, rfl⟩ := run_readWord_eq_ok_iff.mp hlength
    have hn : ofBytes (bytesOf 4 n) = n := ofBytes_bytesOf hroom
    have hfour : (bytesOf 4 n).length = 4 := length_bytesOf 4 n
    rw [run_bind_eq_error_iff, run_take_eq_error_iff] at h
    rcases h with ⟨hcut, rfl, rfl⟩ | ⟨body, m', hbody, h⟩
    · refine ⟨4, ?_, by rw [List.drop_left' hfour]⟩
      have := Fails.cutText hfour (hn.symm ▸ hcut)
      rwa [hn] at this
    · obtain ⟨hlen, rfl⟩ := run_take_eq_ok_iff.mp hbody
      unfold textOf at h
      split at h
      · exact absurd h run_pure_ne_error
      · rename_i fault hfault
        obtain ⟨rfl, rfl⟩ := run_throw_eq_error_iff.mp h
        refine ⟨4 + body.length, .badText hfour (hlen.trans hn.symm) ?_, ?_⟩
        · rintro s rfl
          rw [Text.Utf8.decode_encode] at hfault
          cases hfault
        · rw [← List.drop_drop, List.drop_left' hfour, List.drop_left]
  · rintro ⟨n, h, rfl⟩
    cases h with
    | cutWord hk hcut => cases hk
    | cutLength hcut => exact .inl ⟨hcut, rfl, rfl⟩
    | @cutText length body hlength hcut =>
      refine .inr ⟨ofBytes length, body, ?_, ?_⟩
      · rw [run_readWord_eq_ok_iff, ← hlength, bytesOf_ofBytes]
        exact ⟨ofBytes_lt length, rfl⟩
      · rw [run_bind_eq_error_iff, run_take_eq_error_iff, List.drop_left' hlength]
        exact .inl ⟨hcut, rfl, rfl⟩
    | @badText length body rest hlength hbody hbad =>
      refine .inr ⟨ofBytes length, body ++ rest, ?_, ?_⟩
      · rw [run_readWord_eq_ok_iff, ← hlength, bytesOf_ofBytes]
        exact ⟨ofBytes_lt length, rfl⟩
      · rw [run_bind_eq_error_iff]
        refine .inr ⟨body, rest, run_take_eq_ok_iff.mpr ⟨hbody, rfl⟩, ?_⟩
        rw [← List.drop_drop, List.drop_left' hlength, List.drop_left]
        unfold textOf
        split
        · rename_i s hs
          exact absurd (Text.Utf8.encode_of_decode hs) (hbad s)
        · rfl

/-- **An item cannot be read exactly in the ways of `Fails`.** -/
theorem run_read_eq_error_iff {k : ItemKind} :
    (read k).run bytes = (.error e, rest) ↔ ∃ n, Fails k bytes e n ∧ rest = bytes.drop n := by
  cases k with
  | primitive p =>
    rw [read, run_bind_pure_eq_error_iff, run_readPrimitive_eq_error_iff]
    constructor
    · rintro (⟨hcut, rfl, rfl⟩ | ⟨rfl, b, hb, rfl, rfl⟩)
      · exact ⟨0, .cutWord rfl hcut, rfl⟩
      · exact ⟨1, .badBool hb, rfl⟩
    · rintro ⟨n, h, rfl⟩
      cases h with
      | cutWord hk hcut =>
        cases hk
        exact .inl ⟨hcut, rfl, rfl⟩
      | badBool hb => exact .inr ⟨rfl, _, hb, rfl, rfl⟩
  | presence =>
    rw [read, run_bind_pure_eq_error_iff, readPresence, run_readFlag_eq_error_iff]
    constructor
    · rintro (⟨hcut, rfl, rfl⟩ | ⟨b, hb, rfl, rfl⟩)
      · exact ⟨0, .cutWord rfl hcut, rfl⟩
      · exact ⟨1, .badPresence hb, rfl⟩
    · rintro ⟨n, h, rfl⟩
      cases h with
      | cutWord hk hcut =>
        cases hk
        exact .inl ⟨hcut, rfl, rfl⟩
      | badPresence hb => exact .inr ⟨_, hb, rfl, rfl⟩
  | handle =>
    rw [read, run_bind_pure_eq_error_iff, readHandle, run_bind_pure_eq_error_iff,
      run_readWord_eq_error_iff]
    constructor
    · rintro ⟨hcut, rfl, rfl⟩
      exact ⟨0, .cutWord rfl hcut, rfl⟩
    · rintro ⟨n, h, rfl⟩
      cases h with
      | cutWord hk hcut =>
        cases hk
        exact ⟨hcut, rfl, rfl⟩
  | str => rw [read, run_bind_pure_eq_error_iff, run_readText_eq_error_iff]

/-- An item is read from its bytes, if it can be written. -/
theorem run_read_eq_ok_iff {k : ItemKind} {i : Item} :
    (read k).run bytes = (.ok i, rest) ↔
      i.kind = k ∧ i.check = .ok () ∧ bytes = i.bytes ++ rest := by
  cases k with
  | primitive p =>
    simp only [read, run_bind_eq_ok_iff, run_readPrimitive_eq_ok_iff, run_pure_eq_ok_iff]
    constructor
    · rintro ⟨v, m, ⟨rfl, rfl⟩, rfl, rfl⟩
      exact ⟨rfl, rfl, rfl⟩
    · rintro ⟨hk, -, rfl⟩
      cases i <;> cases hk
      exact ⟨_, _, ⟨rfl, rfl⟩, rfl, rfl⟩
  | presence =>
    simp only [read, run_bind_eq_ok_iff, run_readPresence_eq_ok_iff, run_pure_eq_ok_iff]
    constructor
    · rintro ⟨b, m, rfl, rfl, rfl⟩
      exact ⟨rfl, rfl, rfl⟩
    · rintro ⟨hk, -, rfl⟩
      cases i <;> cases hk
      exact ⟨_, _, rfl, rfl, rfl⟩
  | handle =>
    simp only [read, run_bind_eq_ok_iff, run_readHandle_eq_ok_iff, run_pure_eq_ok_iff]
    constructor
    · rintro ⟨h, m, rfl, rfl, rfl⟩
      exact ⟨rfl, rfl, rfl⟩
    · rintro ⟨hk, -, rfl⟩
      cases i <;> cases hk
      exact ⟨_, _, rfl, rfl, rfl⟩
  | str =>
    simp only [read, run_bind_eq_ok_iff, run_readText_eq_ok_iff, run_pure_eq_ok_iff]
    constructor
    · rintro ⟨s, m, ⟨hs, rfl⟩, rfl, rfl⟩
      exact ⟨rfl, by simp [Item.check, hs], rfl⟩
    · rintro ⟨hk, hcheck, rfl⟩
      cases i <;> cases hk
      rename_i s
      refine ⟨s, rest, ⟨?_, rfl⟩, rfl, rfl⟩
      by_contra hs
      simp [Item.check, hs] at hcheck

end Reads

/-! ## Reads at a cursor -/

/-- What comes of a read of `bytes`, and by how many of these it moves on: those of the item, or
those that `Fails` tells. -/
def Consumes (k : ItemKind) (bytes : List UInt8) (outcome : Except WireError Item) (n : Nat) :
    Prop :=
  match outcome with
  | .ok i => i.kind = k ∧ i.check = .ok () ∧ bytes.take n = i.bytes
  | .error e => Fails k bytes e n

/-- A read `Consumes` bytes from the front, and no more than there are. -/
theorem consumes_run {k : ItemKind} {bytes : List UInt8} {n : Nat} (hn : n ≤ bytes.length)
    (hrest : ((read k).run bytes).2 = bytes.drop n) :
    Consumes k bytes ((read k).run bytes).1 n := by
  cases hrun : (read k).run bytes with
  | mk outcome rest =>
    rw [hrun] at hrest
    obtain rfl : rest = bytes.drop n := hrest
    cases outcome with
    | ok i =>
      obtain ⟨hkind, hcheck, hbytes⟩ := run_read_eq_ok_iff.mp hrun
      refine ⟨hkind, hcheck, ?_⟩
      have hsplit := List.take_append_drop n bytes
      exact List.append_cancel_right (hsplit.trans hbytes)
    | error e =>
      obtain ⟨m, hfails, hdrop⟩ := run_read_eq_error_iff.mp hrun
      have hm := hfails.le_length
      have hlength := congrArg List.length hdrop
      rw [List.length_drop, List.length_drop] at hlength
      obtain rfl : m = n := by omega
      exact hfails

/-- A position that is not behind the end divides the bytes into `front` and those that are left. -/
theorem exists_split {bytes : List UInt8} {pos : Nat} (h : pos ≤ bytes.length) :
    ∃ front, bytes = front ++ bytes.drop pos ∧ pos = front.length :=
  ⟨bytes.take pos, (List.take_append_drop pos bytes).symm, (List.length_take_of_le h).symm⟩

/-- **What one read does at a cursor**: it is not aborted, and moves `pos` on by the bytes that it
`Consumes`, but not behind the end. -/
theorem resume_read (k : ItemKind) {bytes : List UInt8} {pos : Nat} (h : pos ≤ bytes.length) :
    ∃ outcome n, (read k).resume ⟨bytes, pos⟩ = some (outcome, ⟨bytes, pos + n⟩) ∧
      pos + n ≤ bytes.length ∧ Consumes k (bytes.drop pos) outcome n := by
  obtain ⟨n, hn, hrest, hresume⟩ := resume_eq (read k) (bytes.drop pos)
  obtain ⟨front, hsplit, hpos⟩ := exists_split h
  have hfront := hresume front
  rw [← hsplit, ← hpos] at hfront
  refine ⟨_, n, hfront, ?_, consumes_run hn hrest⟩
  rw [List.length_drop] at hn
  omega

/-- The cursor behind reads of `kinds` in a row, if none aborts. A read that fails does not stop the
ones that follow. -/
def afterReads (c : Cursor) (kinds : List ItemKind) : Option Cursor :=
  kinds.foldlM (fun c k => ((read k).resume c).map (·.2)) c

/-- No read is aborted, and `pos` is never behind the end. -/
theorem exists_afterReads (bytes : List UInt8) (kinds : List ItemKind) :
    ∃ pos ≤ bytes.length, afterReads { bytes } kinds = some ⟨bytes, pos⟩ := by
  induction kinds using List.reverseRecOn with
  | nil => exact ⟨0, Nat.zero_le _, rfl⟩
  | append_singleton kinds k ih =>
    obtain ⟨pos, hpos, hafter⟩ := ih
    obtain ⟨outcome, n, hread, hn, -⟩ := resume_read k hpos
    refine ⟨pos + n, hn, ?_⟩
    rw [afterReads] at hafter
    rw [afterReads, List.foldlM_append, hafter]
    show (((read k).resume ⟨bytes, pos⟩).map (·.2)).bind some = _
    rw [hread]
    rfl

/-- **A reader can be used after errors.** After reads of any `kinds`, of which any may have failed,
the reader stands at a position in the bytes or at their end. The next read moves it on, never
beyond the end, by the bytes of the item, or by as many as the way of its failure says; and the
bytes behind the position are all that it is told about at the end. -/
theorem position_of_reads (bytes : List UInt8) (kinds : List ItemKind) :
    ∃ pos ≤ bytes.length, afterReads { bytes } kinds = some ⟨bytes, pos⟩ ∧
      (∀ k, ∃ outcome n, (read k).resume ⟨bytes, pos⟩ = some (outcome, ⟨bytes, pos + n⟩) ∧
        pos + n ≤ bytes.length ∧ Consumes k (bytes.drop pos) outcome n) ∧
      finish.resume ⟨bytes, pos⟩ = some (
        if pos = bytes.length then .ok () else .error (.trailingBytes (bytes.length - pos)),
        ⟨bytes, pos⟩) := by
  obtain ⟨pos, hpos, hafter⟩ := exists_afterReads bytes kinds
  refine ⟨pos, hpos, hafter, fun k => resume_read k hpos, ?_⟩
  obtain ⟨front, hsplit, hlength⟩ := exists_split hpos
  have hfinish := resume_finish front (bytes.drop pos)
  have hleft : bytes.length - pos = 0 ↔ pos = bytes.length := by omega
  rw [← hsplit, ← hlength] at hfinish
  simp only [hfinish, List.length_drop, hleft]

/-- The length of a text is consumed without the text, then a byte that is no flag. -/
example : afterReads { bytes := [3, 0, 0, 0, 97] } [.str, .presence, .primitive .u16] =
    some ⟨[3, 0, 0, 0, 97], 5⟩ := by
  decide +kernel

end Boundary.Wire
