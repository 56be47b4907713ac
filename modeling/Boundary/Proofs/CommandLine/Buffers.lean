import Mathlib.Control.Monad.Basic
import Boundary.CommandLine.Run
import Boundary.Demo.Declarations
import Boundary.Proofs.Datum.RoundTrip
import Boundary.Proofs.Text.Hex

/-!
# Values as hexadecimal digits

The bytes of a value are printed as lower-case digits. They are read back from any spelling of these
digits, and a text that spells no bytes is refused.

* `readSign`: the value of a sign that counts.
* `Spells`: a text spells bytes.
* `hexBytes_eq_error_digit`, `hexBytes_eq_error_odd`: the texts that spell none are refused.
* `hexBytes_eq_ok_iff`: the texts that are read are the spellings of bytes.
* `value_read_back_from_digits`: values are read back from the digits of their bytes.
-/

namespace Boundary

open Fallible Text.Hex

/-! ## Reading signs -/

/-- The value of a sign that counts. -/
def readSign (c : Char) : Except ValueError Nat :=
  match digitValue? c with
  | some d => .ok d
  | none => .error (.digit c)

theorem hexBytes_eq (text : String) :
    hexBytes text = (signs text.toList).mapM readSign >>= fun ns =>
      (pack? ns).elim (.error .oddDigits) .ok := by
  refine congrArg ((signs text.toList).mapM readSign >>= ·) (funext fun ns => ?_)
  cases pack? ns <;> rfl

theorem mapM_readSign_of_digits {cs : List Char} {ns : List Nat}
    (h : cs.map digitValue? = ns.map some) : cs.mapM readSign = .ok ns := by
  induction cs generalizing ns with
  | nil =>
    cases ns with
    | nil => rfl
    | cons n ns => cases h
  | cons c cs ih =>
    cases ns with
    | nil => cases h
    | cons n ns =>
      obtain ⟨hc, hcs⟩ := List.cons.inj h
      rw [List.mapM_cons, readSign, hc, ih hcs]
      rfl

/-- The first sign that is no digit is reported. -/
theorem mapM_readSign_of_find? {cs : List Char} {c : Char}
    (h : cs.find? (fun c => ¬ IsDigit c) = some c) : cs.mapM readSign = .error (.digit c) := by
  induction cs with
  | nil => cases h
  | cons d cs ih =>
    by_cases hd : IsDigit d
    · rw [List.find?_cons_of_neg (by simpa using hd)] at h
      obtain ⟨n, hn⟩ := isDigit_iff.mp hd
      rw [List.mapM_cons, readSign, hn, ih h]
      rfl
    · rw [List.find?_cons_of_pos (by simpa using hd)] at h
      cases h
      have hnone : digitValue? c = none := by
        cases hvalue : digitValue? c with
        | none => rfl
        | some n => exact absurd (isDigit_iff.mpr ⟨n, hvalue⟩) hd
      rw [List.mapM_cons, readSign, hnone]
      rfl

/-! ## Reading bytes -/

/-- A text spells bytes if it is a spelling of their lower-case digits. -/
def Spells (text : String) (bytes : List UInt8) : Prop :=
  Respells (encode bytes).toList text.toList

/-- **The bytes that a text spells are read.** -/
theorem hexBytes_of_spells {text : String} {bytes : List UInt8} (h : Spells text bytes) :
    hexBytes text = .ok bytes := by
  rw [Spells, toList_encode] at h
  have hvalues := h.map_digitValue? fun n => lt_of_mem_halves
  rw [hexBytes_eq, mapM_readSign_of_digits hvalues]
  show (pack? (halves bytes)).elim _ _ = _
  rw [pack?_halves, Option.elim_some]

/-- A text does not spell two rows of bytes. -/
theorem Spells.unique {text : String} {bytes others : List UInt8} (h : Spells text bytes)
    (hothers : Spells text others) : others = bytes := by
  have hread := hexBytes_of_spells hothers
  rw [hexBytes_of_spells h] at hread
  exact (Except.ok.inj hread).symm

theorem hexBytes_eq_error_digit {text : String} {c : Char}
    (h : (signs text.toList).find? (fun c => ¬ IsDigit c) = some c) :
    hexBytes text = .error (.digit c) := by
  rw [hexBytes_eq, mapM_readSign_of_find? h]
  rfl

theorem hexBytes_eq_error_odd {text : String} (h : ∀ c ∈ signs text.toList, IsDigit c)
    (hodd : (signs text.toList).length % 2 = 1) : hexBytes text = .error .oddDigits := by
  obtain ⟨ns, hlt, hlength, hspells⟩ := exists_respells h
  rw [hexBytes_eq, mapM_readSign_of_digits (hspells.map_digitValue? hlt)]
  have hnone : pack? ns = none := (pack?_eq_none_iff ns).mpr (hlength ▸ hodd)
  show (pack? ns).elim _ _ = _
  rw [hnone, Option.elim_none]

/-- An even number of digits spell some bytes. -/
theorem exists_spells {text : String} (h : ∀ c ∈ signs text.toList, IsDigit c)
    (heven : (signs text.toList).length % 2 = 0) : ∃ bytes, Spells text bytes := by
  obtain ⟨ns, hlt, hlength, hspells⟩ := exists_respells h
  obtain ⟨bytes, rfl⟩ := exists_halves_eq hlt (hlength ▸ heven)
  refine ⟨bytes, ?_⟩
  rw [Spells, toList_encode]
  exact hspells

/-- **The texts that are read are the spellings of bytes.** -/
theorem hexBytes_eq_ok_iff {text : String} {bytes : List UInt8} :
    hexBytes text = .ok bytes ↔ Spells text bytes := by
  refine ⟨fun h => ?_, hexBytes_of_spells⟩
  cases hfirst : (signs text.toList).find? (fun c => ¬ IsDigit c) with
  | some c =>
    rw [hexBytes_eq_error_digit hfirst] at h
    cases h
  | none =>
    have hdigits : ∀ c ∈ signs text.toList, IsDigit c := by simpa using hfirst
    obtain heven | hodd := Nat.mod_two_eq_zero_or_one (signs text.toList).length
    · obtain ⟨others, hspells⟩ := exists_spells hdigits heven
      rw [hexBytes_of_spells hspells] at h
      cases h
      exact hspells
    · rw [hexBytes_eq_error_odd hdigits hodd] at h
      cases h

/-! ## Reading values -/

theorem Schema.decodeText_of_spells {s : Schema} {type text : String} {bytes : List UInt8}
    (h : Spells text bytes) :
    s.decodeText type text = (s.decodeNamed type bytes).mapError ValueError.datum := by
  rw [decodeText, hexBytes_of_spells h]
  rfl

theorem Schema.decodeText_of_error {s : Schema} {type text : String} {e : ValueError}
    (h : hexBytes text = .error e) : s.decodeText type text = .error e := by
  rw [decodeText, h]
  rfl

/-- What is printed of a value are the lower-case digits of its bytes. -/
theorem Schema.exists_of_encodeText {s : Schema} {type value hex : String}
    (h : s.encodeText type value = .ok hex) : ∃ d bytes, Datum.ofText value = .ok d ∧
      s.encodeNamed type d = .ok bytes ∧ hex = Text.Hex.encode bytes := by
  obtain ⟨d, hd, h⟩ := bind_eq_ok_iff.mp h
  obtain ⟨bytes, hbytes, h⟩ := bind_eq_ok_iff.mp h
  cases h
  refine ⟨d, bytes, ?_, ?_, rfl⟩
  · cases hvalue : Datum.ofText value with
    | ok d' =>
      rw [hvalue] at hd
      cases hd
      rfl
    | error e =>
      rw [hvalue] at hd
      cases hd
  · cases hencode : s.encodeNamed type d with
    | ok encoded =>
      rw [hencode] at hbytes
      cases hbytes
      rfl
    | error e =>
      rw [hencode] at hbytes
      cases hbytes

/-- **Values are read back from the digits of their bytes, however they are spelled.** What is
printed of a value is such a text. A text with a sign that is neither a digit nor blank is refused
because of the first one, and a text with an odd number of digits is refused, too; any other text
spells bytes, of one kind only, and is read as they are. -/
theorem value_read_back_from_digits (s : Schema) (type : String) :
    (∀ d bytes text, s.encodeNamed type d = .ok bytes → Spells text bytes →
      s.decodeText type text = .ok d) ∧
    (∀ value hex d text, Datum.ofText value = .ok d → s.encodeText type value = .ok hex →
      Respells hex.toList text.toList → s.decodeText type text = .ok d) ∧
    (∀ text c, (signs text.toList).find? (fun c => ¬ IsDigit c) = some c →
      s.decodeText type text = .error (.digit c)) ∧
    (∀ text, (∀ c ∈ signs text.toList, IsDigit c) → (signs text.toList).length % 2 = 1 →
      s.decodeText type text = .error .oddDigits) ∧
    (∀ text, (∀ c ∈ signs text.toList, IsDigit c) → (signs text.toList).length % 2 = 0 →
      ∃ bytes, (Spells text bytes ∧ ∀ others, Spells text others → others = bytes) ∧
        s.decodeText type text = (s.decodeNamed type bytes).mapError ValueError.datum) := by
  have hback {d : Datum} {bytes : List UInt8} {text : String}
      (hbytes : s.encodeNamed type d = .ok bytes) (hspells : Spells text bytes) :
      s.decodeText type text = .ok d := by
    rw [Schema.decodeText_of_spells hspells, Schema.decodeNamed_eq_ok_iff.mpr hbytes]
    rfl
  refine ⟨fun d bytes text => hback, ?_, ?_, ?_, ?_⟩
  · intro value hex d text hvalue hhex hspells
    obtain ⟨d', bytes, hvalue', hbytes, rfl⟩ := Schema.exists_of_encodeText hhex
    obtain rfl : d' = d := Except.ok.inj (hvalue'.symm.trans hvalue)
    exact hback hbytes hspells
  · intro text c hfirst
    exact Schema.decodeText_of_error (hexBytes_eq_error_digit hfirst)
  · intro text hdigits hodd
    exact Schema.decodeText_of_error (hexBytes_eq_error_odd hdigits hodd)
  · intro text hdigits heven
    obtain ⟨bytes, hspells⟩ := exists_spells hdigits heven
    exact ⟨bytes, ⟨hspells, fun others => hspells.unique⟩, Schema.decodeText_of_spells hspells⟩

/-- A text in two lines with digits of either case; a byte; a sign that is no digit; a digit that is
left over. -/
theorem value_read_back_from_digits_demo :
    (Demo.schema.encodeNamed "String" (.str "é") = .ok [2, 0, 0, 0, 0xc3, 0xa9] ∧
      Spells "02 00 00 00\nC3A9" [2, 0, 0, 0, 0xc3, 0xa9] ∧
      Demo.schema.decodeText "String" "02 00 00 00\nC3A9" = .ok (.str "é")) ∧
    (Demo.schema.encodeText "u8" "\x7b\"kind\": \"u8\", \"value\": 10\x7d" = .ok "0a" ∧
      Respells "0a".toList " 0\tA ".toList ∧
      Demo.schema.decodeText "u8" " 0\tA " = .ok (.primitive (.u8 10))) ∧
    Demo.schema.decodeText "u8" "0 x" = .error (.digit 'x') ∧
    Demo.schema.decodeText "u8" "0 0 0" = .error .oddDigits ∧
    ∃ bytes, Spells "ff" bytes ∧
      Demo.schema.decodeText "u8" "ff" = (Demo.schema.decodeNamed "u8" bytes).mapError .datum := by
  obtain ⟨hback, hprinted, hsign, hodd, heven⟩ := value_read_back_from_digits Demo.schema "u8"
  obtain ⟨htext, -⟩ := value_read_back_from_digits Demo.schema "String"
  have hencoded : Demo.schema.encodeNamed "String" (.str "é") = .ok [2, 0, 0, 0, 0xc3, 0xa9] := by
    decide +kernel
  have hspells : Spells "02 00 00 00\nC3A9" [2, 0, 0, 0, 0xc3, 0xa9] :=
    hexBytes_eq_ok_iff.mp (toOption_eq_some_iff.mp (by decide +kernel))
  have hten : Demo.schema.encodeNamed "u8" (.primitive (.u8 10)) = .ok [10] := by decide +kernel
  have hdigits : Spells " 0\tA " [10] :=
    hexBytes_eq_ok_iff.mp (toOption_eq_some_iff.mp (by decide +kernel))
  have hprints : Demo.schema.encodeText "u8" "\x7b\"kind\": \"u8\", \"value\": 10\x7d" =
      .ok "0a" := toOption_eq_some_iff.mp (by decide +kernel)
  -- The value that is printed is the only one with these bytes.
  obtain ⟨d, -, hvalue, -, -⟩ := Schema.exists_of_encodeText hprints
  have hread := hprinted _ _ _ _ hvalue hprints hdigits
  obtain rfl : .primitive (.u8 10) = d :=
    Except.ok.inj ((hback _ _ _ hten hdigits).symm.trans hread)
  refine ⟨⟨hencoded, hspells, htext _ _ _ hencoded hspells⟩, ⟨hprints, hdigits, hread⟩, ?_, ?_, ?_⟩
  · exact hsign _ _ (by decide +kernel)
  · exact hodd _ (by decide +kernel) (by decide +kernel)
  · obtain ⟨bytes, ⟨hbytes, -⟩, hread⟩ := heven "ff" (by decide +kernel) (by decide +kernel)
    exact ⟨bytes, hbytes, hread⟩

end Boundary
