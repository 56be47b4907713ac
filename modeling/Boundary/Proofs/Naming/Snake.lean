import Boundary.Native.Source

/-!
# Names in symbols and tables

Identifiers consist of letters, digits and underscores of the first 128 characters, and so do the
forms in which they occur in native symbols.

* `isIdentPart_of_mem_bareChars`, `mem_toList_cases`: the characters of an identifier.
* `toLower_toUpper_of_mem_snakeChars`: the `person_name` form of an identifier can be told from
  its uppercase form.
* `snake_eq_of_tableName_eq`: the name of a handle table tells the `person_name` form of its type.
* `pascal_eq_of_bare_eq`: the mark of a raw identifier does not count in managed names.
-/

namespace Boundary

namespace Naming

open Boundary.Text

/-! ## Characters of identifiers -/

/-- An identifier consists of letters, digits and underscores. -/
theorem isIdentPart_of_mem_bareChars {name : String} (h : isIdentifier name = true) {c : Char}
    (hc : c ∈ bareChars name.toList) : isIdentPart c = true := by
  simp only [isIdentifier, Bool.and_eq_true] at h
  have hchars := h.1.1
  split at hchars
  · cases hchars
  · rename_i first rest hbare
    rw [Bool.and_eq_true, List.all_eq_true] at hchars
    rw [hbare, List.mem_cons] at hc
    obtain rfl | hc := hc
    · have hstart := hchars.1
      simp only [isIdentStart, Bool.or_eq_true, decide_eq_true_eq] at hstart
      simp only [isIdentPart, Char.isAlphanum, Bool.or_eq_true, decide_eq_true_eq]
      exact hstart.imp_left .inl
    · exact hchars.2 c hc

/-- Only the mark of a raw identifier adds another character. -/
theorem mem_toList_cases {name : String} (h : isIdentifier name = true) {c : Char}
    (hc : c ∈ name.toList) : isIdentPart c = true ∨ c = '#' := by
  have hbare := fun c => isIdentPart_of_mem_bareChars h (c := c)
  generalize name.toList = cs at hc hbare
  unfold bareChars at hbare
  split at hbare
  · simp only [List.mem_cons] at hc
    obtain rfl | rfl | hc := hc
    · exact .inl (by decide)
    · exact .inr rfl
    · exact .inl (hbare c hc)
  · exact .inl (hbare c hc)

theorem isAscii_of_isAlphanum {c : Char} (h : c.isAlphanum = true) : isAscii c = true := by
  have hranges : (decide (c.val ≥ 65 ∧ c.val ≤ 90) || (c.val ≥ 97 && c.val ≤ 122) ||
      (c.val ≥ 48 && c.val ≤ 57)) = true := h
  simp only [Bool.or_eq_true, Bool.and_eq_true, decide_eq_true_eq, ge_iff_le,
    UInt32.le_iff_toNat_le] at hranges
  change ((65 ≤ c.toNat ∧ c.toNat ≤ 90) ∨ 97 ≤ c.toNat ∧ c.toNat ≤ 122) ∨
    48 ≤ c.toNat ∧ c.toNat ≤ 57 at hranges
  rw [isAscii, decide_eq_true_eq]
  omega

/-- The first 128 characters can be looked through one by one. -/
theorem forall_of_isAscii {p : Char → Prop} (h : ∀ n < 128, p (Char.ofNat n)) {c : Char}
    (hc : isAscii c = true) : p c := by
  rw [← c.ofNat_toNat]
  exact h c.toNat (by simpa [isAscii] using hc)

/-! ## The form in symbols -/

/-- The lowercase form of a text of the first 128 characters, one character at a time. -/
theorem lowerFrom_of_isAscii {w : List Char} (h : ∀ c ∈ w, isAscii c = true) (before : List Char) :
    lowerFrom before w = w.map Char.toLower := by
  induction w generalizing before with
  | nil => rfl
  | cons c rest ih =>
    rw [List.forall_mem_cons] at h
    have hsigma : c ≠ 'Σ' := by
      rintro rfl
      exact absurd h.1 (by decide)
    rw [lowerFrom, if_neg hsigma, toLower_ascii h.1, ih h.2]
    rfl

/-- The lowercase form of a word of letters and digits, one character at a time. -/
theorem lowerFrom_eq_map {w : List Char} (h : ∀ c ∈ w, c.isAlphanum = true) (before : List Char) :
    lowerFrom before w = w.map Char.toLower :=
  lowerFrom_of_isAscii (fun c hc => isAscii_of_isAlphanum (h c hc)) before

/-- The words of an identifier consist of letters and digits. -/
theorem isAlphanum_of_mem_words {name : String} (h : isIdentifier name = true) {w : List Char}
    (hw : w ∈ words name.toList) {c : Char} (hc : c ∈ w) : c.isAlphanum = true := by
  have hmem : c ∈ (words name.toList).flatten := List.mem_flatten.mpr ⟨w, hw, hc⟩
  rw [flatten_words, List.mem_filter, decide_eq_true_eq] at hmem
  have hpart := isIdentPart_of_mem_bareChars h hmem.1
  simpa [isIdentPart, hmem.2] using hpart

theorem mem_intercalate_cases {c separator : Char} {parts : List (List Char)}
    (h : c ∈ [separator].intercalate parts) : c = separator ∨ ∃ part ∈ parts, c ∈ part := by
  induction parts with
  | nil => cases h
  | cons part rest ih =>
    cases rest with
    | nil => exact .inr ⟨part, by simp, by simpa using h⟩
    | cons next rest =>
      rw [List.intercalate_cons_cons] at h
      simp only [List.mem_append, List.mem_singleton] at h
      obtain (h | h) | h := h
      · exact .inr ⟨part, by simp, h⟩
      · exact .inl h
      · exact (ih h).imp_right fun ⟨p, hp, hc⟩ => ⟨p, List.mem_cons_of_mem _ hp, hc⟩

/-- A character of a symbol is an underscore or the lowercase form of a letter or digit. -/
theorem mem_snakeChars_cases {name : String} (h : isIdentifier name = true) {c : Char}
    (hc : c ∈ snakeChars name.toList) :
    c = '_' ∨ ∃ d : Char, d.isAlphanum = true ∧ c = d.toLower := by
  refine (mem_intercalate_cases hc).imp_right ?_
  rintro ⟨part, hpart, hc⟩
  obtain ⟨w, hw, rfl⟩ := List.mem_map.mp hpart
  have hword : ∀ c ∈ w, c.isAlphanum = true := fun c => isAlphanum_of_mem_words h hw
  rw [lowerWord, lowerFrom_eq_map hword] at hc
  obtain ⟨d, hd, rfl⟩ := List.mem_map.mp hc
  exact ⟨d, hword d hd, rfl⟩

/-- No character of a symbol is lost in its uppercase form. -/
theorem toLower_toUpper_of_mem_snakeChars {name : String} (h : isIdentifier name = true) {c : Char}
    (hc : c ∈ snakeChars name.toList) : ∃ d, toUpper c = [d] ∧ d.toLower = c := by
  obtain rfl | ⟨d, hd, rfl⟩ := mem_snakeChars_cases h hc
  · exact ⟨'_', by decide, by decide⟩
  · have hfacts : isAscii d.toLower = true ∧
        (d.isAlphanum = true → d.toLower.toUpper.toLower = d.toLower) :=
      forall_of_isAscii (p := fun d => isAscii d.toLower = true ∧
        (d.isAlphanum = true → d.toLower.toUpper.toLower = d.toLower)) (by decide)
        (isAscii_of_isAlphanum hd)
    exact ⟨d.toLower.toUpper, toUpper_ascii hfacts.1, hfacts.2 hd⟩

/-- The uppercase form of a text of which no character is lost tells the text. -/
private theorem map_toLower_flatMap_toUpper {cs : List Char}
    (h : ∀ c ∈ cs, ∃ d, toUpper c = [d] ∧ d.toLower = c) :
    (cs.flatMap toUpper).map Char.toLower = cs := by
  induction cs with
  | nil => rfl
  | cons c rest ih =>
    rw [List.forall_mem_cons] at h
    obtain ⟨⟨d, hupper, hlower⟩, hrest⟩ := h
    rw [List.flatMap_cons, hupper, List.map_append, ih hrest]
    simp [hlower]

/-! ## The mark of a raw identifier -/

/-- The mark of a raw identifier does not count in managed names. -/
theorem pascal_eq_of_bare_eq {a b : String} (h : bare a = bare b) : pascal a = pascal b := by
  have hchars : bareChars a.toList = bareChars b.toList := String.ofList_injective h
  unfold pascal pascalChars words
  rw [hchars]

end Naming

open Naming

/-- The name of a handle table tells the form of its type that symbols have. -/
theorem snake_eq_of_tableName_eq {a b : String} (ha : isIdentifier a = true)
    (hb : isIdentifier b = true) (h : tableName a = tableName b) : snake a = snake b := by
  have hupper : (snakeChars a.toList).flatMap Text.toUpper =
      (snakeChars b.toList).flatMap Text.toUpper := by
    have htext := congrArg String.toList h
    simp only [tableName, snake, String.toList_append, String.toList_ofList] at htext
    exact List.append_cancel_right htext
  have hlower := congrArg (List.map Char.toLower) hupper
  rw [map_toLower_flatMap_toUpper fun c => toLower_toUpper_of_mem_snakeChars ha,
    map_toLower_flatMap_toUpper fun c => toLower_toUpper_of_mem_snakeChars hb] at hlower
  rw [snake, snake, hlower]

end Boundary
