import Boundary.Proofs.Naming.Word

/-!
# Signs in names

The forms of a text that is no identifier keep what makes it none: a sign that is no letter, digit
or underscore is in the form for symbols and in the one for managed names too. And they have no
signs of their own.

* `IsSign`: characters that no name has and that have no letter case.
* `IsSign.mem_snake`, `IsSign.mem_pascal`: they are kept.
* `IsLone`: characters that no name has and that are forms of themselves only; `isLone_brace`:
  braces are such characters.
* `IsLone.of_mem_snake`, `IsLone.of_mem_pascal`: they are in a form only if they are in the text.
-/

namespace Boundary.Naming

open Boundary.Text

/-- A character that no name in source has and that is its own capital and small letter. -/
structure IsSign (c : Char) : Prop where
  notWord : isWordChar c = false
  upper : toUpper c = [c]
  lower : toLower c = [c]

instance (c : Char) : Decidable (IsSign c) :=
  decidable_of_iff (isWordChar c = false ∧ toUpper c = [c] ∧ toLower c = [c])
    ⟨fun h => ⟨h.1, h.2.1, h.2.2⟩, fun h => ⟨h.notWord, h.upper, h.lower⟩⟩

variable {c : Char}

theorem IsSign.ne (h : IsSign c) {d : Char} (hd : isWordChar d = true) : c ≠ d := by
  rintro rfl
  rw [h.notWord] at hd
  cases hd

theorem IsSign.mem_bareChars (h : IsSign c) {cs : List Char} (hc : c ∈ cs) : c ∈ bareChars cs := by
  fun_cases bareChars cs with
  | case1 rest => simpa [h.ne (d := 'r') (by decide), h.ne (d := '#') (by decide)] using hc
  | case2 => exact hc

theorem IsSign.exists_word (h : IsSign c) {cs : List Char} (hc : c ∈ cs) :
    ∃ w ∈ words cs, c ∈ w := by
  rw [← List.mem_flatten, flatten_words, List.mem_filter, decide_eq_true_eq]
  exact ⟨h.mem_bareChars hc, h.ne (by decide)⟩

theorem IsSign.mem_lowerFrom (h : IsSign c) {w : List Char} (hc : c ∈ w) (before : List Char) :
    c ∈ lowerFrom before w := by
  induction w generalizing before with
  | nil => cases hc
  | cons d rest ih =>
    rw [lowerFrom, List.mem_append]
    obtain rfl | hc := List.mem_cons.mp hc
    · have hsigma : c ≠ 'Σ' := by
        rintro rfl
        exact absurd h.lower (by decide)
      rw [if_neg hsigma, h.lower]
      exact .inl (List.mem_singleton_self c)
    · exact .inr (ih hc _)

theorem IsSign.mem_capitalize (h : IsSign c) {w : List Char} (hc : c ∈ w) : c ∈ capitalize w := by
  cases w with
  | nil => cases hc
  | cons d rest =>
    rw [capitalize, List.mem_append, List.mem_flatMap]
    obtain rfl | hc := List.mem_cons.mp hc
    · exact .inl (by simp [h.upper])
    · exact .inr ⟨c, hc, by simp [h.lower]⟩

private theorem mem_intercalate_of_mem {separator : Char} {parts : List (List Char)}
    {part : List Char} (hpart : part ∈ parts) (hc : c ∈ part) :
    c ∈ [separator].intercalate parts := by
  induction parts with
  | nil => cases hpart
  | cons first rest ih =>
    cases rest with
    | nil =>
      obtain rfl := List.mem_singleton.mp hpart
      simpa using hc
    | cons next rest =>
      rw [List.intercalate_cons_cons, List.mem_append, List.mem_append]
      obtain rfl | hpart := List.mem_cons.mp hpart
      · exact .inl (.inl hc)
      · exact .inr (ih hpart)

/-- A sign is kept in the form for symbols. -/
theorem IsSign.mem_snake (h : IsSign c) {name : String} (hc : c ∈ name.toList) :
    c ∈ (snake name).toList := by
  obtain ⟨w, hw, hc⟩ := h.exists_word hc
  rw [snake, String.toList_ofList]
  exact mem_intercalate_of_mem (List.mem_map_of_mem hw) (h.mem_lowerFrom hc _)

/-- A sign is kept in the form for managed names. -/
theorem IsSign.mem_pascal (h : IsSign c) {name : String} (hc : c ∈ name.toList) :
    c ∈ (pascal name).toList := by
  obtain ⟨w, hw, hc⟩ := h.exists_word hc
  have hmem : c ∈ (words name.toList).flatMap capitalize :=
    List.mem_flatMap.mpr ⟨w, hw, h.mem_capitalize hc⟩
  rw [pascal, String.toList_ofList, pascalChars]
  split
  · exact List.mem_cons_of_mem _ hmem
  · exact hmem

/-! ## Signs that stand for themselves only -/

/-- A character that no name in source has and that is the capital and the small letter of no other
character. -/
structure IsLone (c : Char) : Prop where
  notWord : isWordChar c = false
  upper : ∀ d, c ∈ toUpper d → c = d
  lower : ∀ d, c ∈ toLower d → c = d
  /-- It is no form of the letter whose form depends on where it stands. -/
  sigma : c ≠ 'ς' ∧ c ≠ 'σ'

/-- No entry of the tables ends at the character. -/
def IsNoImage (sequences : List (Nat × List Nat)) (shifts : List CaseTable.Shift) (c : Char) :
    Prop :=
  c ≠ '\x00' ∧ (∀ entry ∈ sequences, c.toNat ∉ entry.2) ∧
    ∀ shift ∈ shifts, shift.span.last + shift.distance < (c.toNat : Int) ∨
      c.toNat < shift.span.first + shift.distance

instance (sequences : List (Nat × List Nat)) (shifts : List CaseTable.Shift) (c : Char) :
    Decidable (IsNoImage sequences shifts c) := inferInstanceAs (Decidable (_ ∧ _ ∧ _))

private theorem toNat_ofNat {n : Nat} (h : Char.ofNat n ≠ '\x00') : (Char.ofNat n).toNat = n := by
  by_cases hvalid : n.isValidChar
  · rw [Char.ofNat, dif_pos hvalid]
    rfl
  · rw [Char.ofNat, dif_neg hvalid] at h
    exact absurd rfl h

/-- A mapping gives such a character for itself only. -/
theorem IsNoImage.eq_of_mem {sequences : List (Nat × List Nat)} {shifts : List CaseTable.Shift}
    (h : IsNoImage sequences shifts c) {d : Char} (hc : c ∈ mapCase sequences shifts d) :
    c = d := by
  obtain ⟨hzero, hsequences, hshifts⟩ := h
  unfold mapCase at hc
  split at hc
  · rename_i image himage
    obtain ⟨n, hn, rfl⟩ := List.mem_map.mp hc
    rw [toNat_ofNat hzero] at hsequences
    obtain ⟨front, back, hsplit, -⟩ := List.lookup_eq_some_iff.mp himage
    exact absurd hn (hsequences (d.toNat, image) (by simp [hsplit]))
  split at hc
  · rename_i shift hshift
    obtain rfl := List.mem_singleton.mp hc
    have hpositive : (d.toNat + shift.distance).toNat ≠ 0 := fun hnone => hzero (by rw [hnone])
    rw [toNat_ofNat hzero] at hshifts
    have hfound := List.find?_some hshift
    have hcovers := (Span.covers_iff _ _).mp hfound
    have hapart := hshifts shift (List.mem_of_find?_eq_some hshift)
    omega
  · exact List.mem_singleton.mp hc

/-- Braces are forms of themselves only. -/
theorem isLone_brace : ∀ c ∈ ['{', '}'], IsLone c := by
  have htables : ∀ c ∈ ['{', '}'], isWordChar c = false ∧
      IsNoImage CaseTable.toUpperSequences CaseTable.toUpperShifts c ∧
      IsNoImage CaseTable.toLowerSequences CaseTable.toLowerShifts c ∧ c ≠ 'ς' ∧ c ≠ 'σ' := by
    decide +kernel
  have hascii : ∀ c ∈ ['{', '}'], ∀ n < 128,
      (c = (Char.ofNat n).toUpper → c = Char.ofNat n) ∧
        (c = (Char.ofNat n).toLower → c = Char.ofNat n) := by
    decide +kernel
  intro c hc
  obtain ⟨hword, hupper, hlower, hsigma⟩ := htables c hc
  have hforms {d : Char} (hd : isAscii d = true) :
      (c = d.toUpper → c = d) ∧ (c = d.toLower → c = d) :=
    forall_of_isAscii (p := fun d => (c = d.toUpper → c = d) ∧ (c = d.toLower → c = d))
      (hascii c hc) hd
  refine ⟨hword, fun d hd => ?_, fun d hd => ?_, hsigma⟩
  · unfold toUpper at hd
    split at hd
    · rename_i had
      exact (hforms had).1 (List.mem_singleton.mp hd)
    · exact hupper.eq_of_mem hd
  · unfold toLower at hd
    split at hd
    · rename_i had
      exact (hforms had).2 (List.mem_singleton.mp hd)
    · exact hlower.eq_of_mem hd

theorem IsLone.of_mem_lowerFrom (h : IsLone c) {before w : List Char}
    (hc : c ∈ lowerFrom before w) : c ∈ w := by
  induction w generalizing before with
  | nil => exact hc
  | cons d rest ih =>
    rw [lowerFrom, List.mem_append] at hc
    refine List.mem_cons.mpr (hc.imp (fun hd => ?_) ih)
    split at hd
    · have hforms : lowerSigma before rest = 'ς' ∨ lowerSigma before rest = 'σ' := by
        unfold lowerSigma
        split
        · exact .inl rfl
        · exact .inr rfl
      rw [List.mem_singleton] at hd
      rcases hforms with hform | hform
      · exact absurd (hd.trans hform) h.sigma.1
      · exact absurd (hd.trans hform) h.sigma.2
    · exact h.lower d hd

theorem IsLone.of_mem_capitalize (h : IsLone c) {w : List Char} (hc : c ∈ capitalize w) :
    c ∈ w := by
  cases w with
  | nil => exact hc
  | cons d rest =>
    rw [capitalize, List.mem_append, List.mem_flatMap] at hc
    rcases hc with hd | ⟨e, he, hlower⟩
    · exact h.upper d hd ▸ List.mem_cons_self
    · exact h.lower e hlower ▸ List.mem_cons_of_mem _ he

/-- The form for symbols has such a sign only if the text has it. -/
theorem IsLone.of_mem_snake (h : IsLone c) {name : String} (hc : c ∈ (snake name).toList) :
    c ∈ name.toList := by
  rw [snake, String.toList_ofList] at hc
  rcases mem_intercalate_cases hc with rfl | ⟨part, hpart, hc⟩
  · exact absurd h.notWord (by decide)
  · obtain ⟨w, hw, rfl⟩ := List.mem_map.mp hpart
    exact mem_of_mem_words hw (h.of_mem_lowerFrom hc)

/-- The form for managed names has such a sign only if the text has it. -/
theorem IsLone.of_mem_pascal (h : IsLone c) {name : String} (hc : c ∈ (pascal name).toList) :
    c ∈ name.toList := by
  rw [pascal, String.toList_ofList, pascalChars] at hc
  have hwords : c ∈ (words name.toList).flatMap capitalize := by
    split at hc
    · rcases List.mem_cons.mp hc with rfl | hc
      · exact absurd h.notWord (by decide)
      · exact hc
    · exact hc
  obtain ⟨w, hw, hc⟩ := List.mem_flatMap.mp hwords
  exact mem_of_mem_words hw (h.of_mem_capitalize hc)

end Boundary.Naming
