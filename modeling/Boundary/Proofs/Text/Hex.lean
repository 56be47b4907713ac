import Boundary.Text.Blank
import Boundary.Text.CharSet
import Boundary.Text.Hex

/-!
# Ways to write bytes in hexadecimal digits

Bytes have one text of lower-case digits. It can be spelled in other ways: with blanks anywhere, and
with digits of either case.

* `Hex.IsDigit`: the signs that are digits; `digitValue?_eq_some_iff`: their values.
* `Hex.halves`: the values of the digits of bytes; `pack?_halves`, `exists_halves_eq`: they are
  joined to the bytes again.
* `Hex.Respells`: one text spells another one in its own way.
* `Hex.exists_respells`: what is spelled by any text of digits and blanks.
-/

namespace Boundary.Text.Hex

/-! ## Digits -/

/-- A digit, of either case. -/
def IsDigit (c : Char) : Prop := c ∈ "0123456789abcdefABCDEF".toList

instance (c : Char) : Decidable (IsDigit c) :=
  inferInstanceAs (Decidable (c ∈ "0123456789abcdefABCDEF".toList))

private theorem toNat_lt_of_digitValue? {c : Char} {n : Nat} (h : digitValue? c = some n) :
    c.toNat < 128 := by
  have hbound {high : Char} (hhigh : high.toNat < 128) (hc : c ≤ high) : c.toNat < 128 :=
    Nat.lt_of_le_of_lt hc hhigh
  unfold digitValue? at h
  split at h
  case isTrue hdecimal => exact hbound (by decide) hdecimal.2
  split at h
  case isTrue hlower => exact hbound (by decide) hlower.2
  split at h
  case isTrue hupper => exact hbound (by decide) hupper.2
  cases h

/-- Each value has a lower-case digit, which may be written in upper case. -/
theorem digitValue?_eq_some_iff {c : Char} {n : Nat} :
    digitValue? c = some n ↔ n < 16 ∧ (c = digitChar n ∨ c = (digitChar n).toUpper) := by
  constructor
  · intro h
    -- All digits are among the first characters, which are looked at one by one.
    have hall : ∀ k < 128, ∀ n ∈ digitValue? (Char.ofNat k), n < 16 ∧
        (Char.ofNat k = digitChar n ∨ Char.ofNat k = (digitChar n).toUpper) := by decide
    have hc := hall c.toNat (toNat_lt_of_digitValue? h)
    rw [Char.ofNat_toNat] at hc
    exact hc n h
  · rintro ⟨hn, hc⟩
    have hall : ∀ n < 16, digitValue? (digitChar n) = some n ∧
        digitValue? (digitChar n).toUpper = some n := by decide
    obtain rfl | rfl := hc
    · exact (hall n hn).1
    · exact (hall n hn).2

theorem isDigit_iff {c : Char} : IsDigit c ↔ ∃ n, digitValue? c = some n := by
  constructor
  · intro h
    have hall : ∀ c ∈ "0123456789abcdefABCDEF".toList, (digitValue? c).isSome = true := by decide
    exact Option.isSome_iff_exists.mp (hall c h)
  · rintro ⟨n, hn⟩
    have hall : ∀ n < 16, IsDigit (digitChar n) ∧ IsDigit (digitChar n).toUpper := by decide
    obtain ⟨hlt, rfl | rfl⟩ := digitValue?_eq_some_iff.mp hn
    · exact (hall n hlt).1
    · exact (hall n hlt).2

private theorem not_isBlank_of_isDigit {c : Char} (h : IsDigit c) : isBlank c = false := by
  have hall : ∀ c ∈ "0123456789abcdefABCDEF".toList, isBlank c = false := by decide
  exact hall c h

/-! ## Bytes -/

/-- The values of the digits of bytes. -/
def halves (bytes : List UInt8) : List Nat :=
  bytes.flatMap fun b => [b.toNat / 16, b.toNat % 16]

theorem toList_encode (bytes : List UInt8) :
    (encode bytes).toList = (halves bytes).map digitChar := by
  rw [encode, String.toList_ofList, halves, List.map_flatMap]
  rfl

theorem lt_of_mem_halves {bytes : List UInt8} {n : Nat} (h : n ∈ halves bytes) : n < 16 := by
  obtain ⟨b, -, hn⟩ := List.mem_flatMap.mp h
  have hb := b.toNat_lt
  simp only [List.mem_cons, List.not_mem_nil, or_false] at hn
  omega

theorem pack?_halves (bytes : List UInt8) : pack? (halves bytes) = some bytes := by
  induction bytes with
  | nil => rfl
  | cons b bytes ih =>
    have hbyte : UInt8.ofNat (16 * (b.toNat / 16) + b.toNat % 16) = b := by
      rw [Nat.div_add_mod]
      exact UInt8.ofNat_toNat
    show (pack? (halves bytes)).map (UInt8.ofNat (16 * (b.toNat / 16) + b.toNat % 16) :: ·) = _
    rw [ih, hbyte, Option.map_some]

/-- An even number of digits are those of some bytes. -/
theorem exists_halves_eq {ns : List Nat} (hlt : ∀ n ∈ ns, n < 16) (heven : ns.length % 2 = 0) :
    ∃ bytes, halves bytes = ns := by
  fun_induction pack? ns with
  | case1 => exact ⟨[], rfl⟩
  | case2 n => cases heven
  | case3 high low rest ih =>
    have hhigh := hlt high (by simp)
    have hlow := hlt low (by simp)
    have hrest : rest.length % 2 = 0 := by
      simp only [List.length_cons] at heven
      omega
    obtain ⟨bytes, hbytes⟩ := ih (fun n hn => hlt n (by simp [hn])) hrest
    refine ⟨UInt8.ofNat (16 * high + low) :: bytes, ?_⟩
    have hvalue : (UInt8.ofNat (16 * high + low)).toNat = 16 * high + low := by
      rw [UInt8.toNat_ofNat']
      omega
    rw [halves, List.flatMap_cons, hvalue, ← halves, hbytes]
    simp only [List.cons_append, List.nil_append, List.cons.injEq, and_true]
    omega

/-! ## Spellings -/

/-- The second text spells the first one with blanks in between, and in upper case where it
likes. -/
inductive Respells : List Char → List Char → Prop
  | nil : Respells [] []
  | blank {b : Char} {cs ds : List Char} (hb : isBlank b = true) (h : Respells cs ds) :
    Respells cs (b :: ds)
  | digit {c d : Char} {cs ds : List Char} (hd : d = c ∨ d = c.toUpper) (h : Respells cs ds) :
    Respells (c :: cs) (d :: ds)

/-- The signs that count in a spelling. -/
def signs (cs : List Char) : List Char := cs.filter (!isBlank ·)

theorem signs_cons_of_isBlank {b : Char} (hb : isBlank b = true) (cs : List Char) :
    signs (b :: cs) = signs cs := by
  simp [signs, hb]

theorem signs_cons_of_isDigit {c : Char} (hc : IsDigit c) (cs : List Char) :
    signs (c :: cs) = c :: signs cs := by
  simp [signs, not_isBlank_of_isDigit hc]

/-- The digits of a spelling have the values of the digits that it spells. -/
theorem Respells.map_digitValue? {ns : List Nat} {ds : List Char} (hlt : ∀ n ∈ ns, n < 16)
    (h : Respells (ns.map digitChar) ds) : (signs ds).map digitValue? = ns.map some := by
  generalize hcs : ns.map digitChar = cs at h
  induction h generalizing ns with
  | nil =>
    rw [List.map_eq_nil_iff.mp hcs]
    rfl
  | blank hb h ih =>
    rw [signs_cons_of_isBlank hb]
    exact ih hlt hcs
  | @digit c d cs ds hd h ih =>
    cases ns with
    | nil => cases hcs
    | cons n ns =>
      obtain ⟨rfl, hrest⟩ := List.cons.inj hcs
      have hvalue : digitValue? d = some n := digitValue?_eq_some_iff.mpr ⟨hlt n (by simp), hd⟩
      rw [signs_cons_of_isDigit (isDigit_iff.mpr ⟨n, hvalue⟩), List.map_cons, hvalue, List.map_cons,
        ih (fun m hm => hlt m (List.mem_cons_of_mem n hm)) hrest]

/-- A text of digits and blanks spells as many lower-case digits as it has. -/
theorem exists_respells {cs : List Char} (h : ∀ c ∈ signs cs, IsDigit c) :
    ∃ ns : List Nat, (∀ n ∈ ns, n < 16) ∧ ns.length = (signs cs).length ∧
      Respells (ns.map digitChar) cs := by
  induction cs with
  | nil => exact ⟨[], by simp, rfl, .nil⟩
  | cons c cs ih =>
    by_cases hb : isBlank c = true
    · rw [signs_cons_of_isBlank hb] at h ⊢
      obtain ⟨ns, hlt, hlength, hspells⟩ := ih h
      exact ⟨ns, hlt, hlength, .blank hb hspells⟩
    · have hc : IsDigit c := h c (by simp [signs, hb])
      rw [signs_cons_of_isDigit hc] at h ⊢
      obtain ⟨ns, hlt, hlength, hspells⟩ := ih fun d hd => h d (by simp [hd])
      obtain ⟨n, hn⟩ := isDigit_iff.mp hc
      obtain ⟨hn, hspelled⟩ := digitValue?_eq_some_iff.mp hn
      exact ⟨n :: ns, by simpa [hn] using hlt, by simp [hlength], .digit hspelled hspells⟩

end Boundary.Text.Hex
