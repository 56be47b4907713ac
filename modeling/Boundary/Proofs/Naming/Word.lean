import Boundary.Proofs.Naming.Snake

/-!
# Names are words

However a name is spelled in generated source, it consists of letters, digits, underscores and the
marks of names that are keywords. So it has no signs that mean something between names.

* `IsWord`: a text of such characters.
* `IsWord.notMem`: what a word does not contain.
* `isWord_of_isIdentifier`, `isWord_snake`, `isWord_tableName`: identifiers and their forms in
  symbols and tables.
* `IsWord.bare`, `IsWord.pascal`, `IsWord.camel`: the forms of a word.
* `IsWord.managedIdent`, `IsWord.nativeIdent`: marked names.
-/

namespace Boundary.Naming

open Boundary.Text

/-- Whether a name in source may have the character. -/
def isWordChar (c : Char) : Bool := isIdentPart c || c = '#' || c = '@'

/-- A text of characters that names in source have. -/
def IsWord (s : String) : Prop := ∀ c ∈ s.toList, isWordChar c = true

instance (s : String) : Decidable (IsWord s) := inferInstanceAs (Decidable (∀ c ∈ s.toList, _))

variable {name : String}

theorem IsWord.notMem {s : String} (h : IsWord s) {c : Char} (hc : isWordChar c = false) :
    c ∉ s.toList := fun hmem => by simp [h c hmem] at hc

theorem IsWord.append {a b : String} (ha : IsWord a) (hb : IsWord b) : IsWord (a ++ b) := by
  intro c hc
  rw [String.toList_append, List.mem_append] at hc
  exact hc.elim (ha c) (hb c)

theorem isWordChar_of_isIdentPart {c : Char} (h : isIdentPart c = true) : isWordChar c = true := by
  simp [isWordChar, h]

theorem isWord_of_isIdentifier (h : isIdentifier name = true) : IsWord name := by
  intro c hc
  obtain hc | rfl := mem_toList_cases h hc
  · exact isWordChar_of_isIdentPart hc
  · decide

theorem isWord_toString (n : Nat) : IsWord (toString n) := by
  intro c hc
  have hdigits : (toString n).toList = Nat.toDigits 10 n := by
    rw [Nat.toString_eq_repr, Nat.repr_eq_ofList_toDigits, String.toList_ofList]
  rw [hdigits] at hc
  have hdigit := Nat.isDigit_of_mem_toDigits (by omega) (by omega) hc
  simp [isWordChar, isIdentPart, Char.isAlphanum, hdigit]

theorem toString_nat_injective {m n : Nat} (h : toString m = toString n) : m = n := by
  rw [Nat.toString_eq_repr, Nat.toString_eq_repr, Nat.repr_eq_ofList_toDigits,
    Nat.repr_eq_ofList_toDigits] at h
  have hdigits := congrArg (Nat.ofDigitChars 10 · 0) (String.ofList_injective h)
  rwa [Nat.ofDigitChars_ten_toDigits, Nat.ofDigitChars_ten_toDigits] at hdigits

theorem bareChars_suffix (cs : List Char) : bareChars cs <:+ cs := by
  unfold bareChars
  split
  · exact (List.suffix_cons _ _).trans (List.suffix_cons _ _)
  · exact List.suffix_refl _

/-- The characters of the words of a name are in the name. -/
theorem mem_of_mem_words {cs w : List Char} (hw : w ∈ words cs) {c : Char} (hc : c ∈ w) :
    c ∈ cs := by
  have hmem : c ∈ (words cs).flatten := List.mem_flatten.mpr ⟨w, hw, hc⟩
  rw [flatten_words] at hmem
  exact (bareChars_suffix cs).subset (List.mem_filter.mp hmem).1

theorem IsWord.bare (h : IsWord name) : IsWord (bare name) := by
  intro c hc
  rw [Naming.bare, String.toList_ofList] at hc
  exact h c ((bareChars_suffix _).subset hc)

/-- Letters and digits are kept as such in capitals and in small letters. -/
theorem isAlphanum_of_mem_cased {c d : Char} (hc : c.isAlphanum = true)
    (hd : d ∈ toUpper c ∨ d ∈ toLower c) : d.isAlphanum = true := by
  have hascii := isAscii_of_isAlphanum hc
  have hcased : c.isAlphanum = true →
      c.toUpper.isAlphanum = true ∧ c.toLower.isAlphanum = true :=
    forall_of_isAscii (p := fun c => c.isAlphanum = true →
      c.toUpper.isAlphanum = true ∧ c.toLower.isAlphanum = true) (by decide) hascii
  rw [toUpper_ascii hascii, toLower_ascii hascii] at hd
  obtain hd | hd := hd
  · obtain rfl := List.mem_singleton.mp hd
    exact (hcased hc).1
  · obtain rfl := List.mem_singleton.mp hd
    exact (hcased hc).2

/-- A managed name consists of letters and digits, perhaps behind an underscore. -/
theorem pascalChars_cases (h : isIdentifier name = true) :
    ∃ letters : List Char, (∀ c ∈ letters, c.isAlphanum = true) ∧
      (pascalChars name.toList = letters ∧ letters.head?.any Char.isDigit = false ∨
        pascalChars name.toList = '_' :: letters ∧ letters.head?.any Char.isDigit = true) := by
  refine ⟨(words name.toList).flatMap capitalize, ?_, ?_⟩
  · intro d hd
    obtain ⟨w, hw, hd⟩ := List.mem_flatMap.mp hd
    have hword : ∀ c ∈ w, c.isAlphanum = true := fun c => isAlphanum_of_mem_words h hw
    cases w with
    | nil => cases hd
    | cons c rest =>
      rw [List.forall_mem_cons] at hword
      rw [capitalize, List.mem_append, List.mem_flatMap] at hd
      obtain hd | ⟨c', hc', hd⟩ := hd
      · exact isAlphanum_of_mem_cased hword.1 (.inl hd)
      · exact isAlphanum_of_mem_cased (hword.2 c' hc') (.inr hd)
  · unfold pascalChars
    dsimp only
    split <;> simp_all

theorem isIdentPart_of_isAlphanum {c : Char} (h : c.isAlphanum = true) : isIdentPart c = true := by
  simp [isIdentPart, h]

theorem isAscii_of_isWordChar {c : Char} (h : isWordChar c = true) : isAscii c = true := by
  simp only [isWordChar, isIdentPart, Bool.or_eq_true, decide_eq_true_eq] at h
  obtain ((h | rfl) | rfl) | rfl := h
  · exact isAscii_of_isAlphanum h
  all_goals decide

theorem isWordChar_of_mem_cased {c d : Char} (hc : isWordChar c = true)
    (hd : d ∈ toUpper c ∨ d ∈ toLower c) : isWordChar d = true := by
  have hascii := isAscii_of_isWordChar hc
  have hcased : isWordChar c = true → isWordChar c.toUpper = true ∧ isWordChar c.toLower = true :=
    forall_of_isAscii (p := fun c => isWordChar c = true →
      isWordChar c.toUpper = true ∧ isWordChar c.toLower = true) (by decide) hascii
  rw [toUpper_ascii hascii, toLower_ascii hascii, List.mem_singleton, List.mem_singleton] at hd
  obtain rfl | rfl := hd
  · exact (hcased hc).1
  · exact (hcased hc).2

theorem IsWord.pascal (h : IsWord name) : IsWord (pascal name) := by
  have hcapitals : ∀ c ∈ (words name.toList).flatMap capitalize, isWordChar c = true := by
    intro c hc
    obtain ⟨w, hw, hc⟩ := List.mem_flatMap.mp hc
    have hword : ∀ d ∈ w, isWordChar d = true := fun d hd => h d (mem_of_mem_words hw hd)
    cases w with
    | nil => cases hc
    | cons first rest =>
      rw [List.forall_mem_cons] at hword
      rw [capitalize, List.mem_append, List.mem_flatMap] at hc
      obtain hc | ⟨d, hd, hc⟩ := hc
      · exact isWordChar_of_mem_cased hword.1 (.inl hc)
      · exact isWordChar_of_mem_cased (hword.2 d hd) (.inr hc)
  intro c hc
  rw [Naming.pascal, String.toList_ofList, pascalChars] at hc
  split at hc
  · obtain rfl | hc := List.mem_cons.mp hc
    · decide
    · exact hcapitals c hc
  · exact hcapitals c hc

theorem IsWord.camel (h : IsWord name) : IsWord (camel name) := by
  have hpascal := h.pascal
  intro c hc
  rw [IsWord, Naming.pascal, String.toList_ofList] at hpascal
  rw [Naming.camel, String.toList_ofList, camelChars] at hc
  cases hchars : pascalChars name.toList with
  | nil =>
    rw [hchars] at hc
    cases hc
  | cons first rest =>
    rw [hchars, List.forall_mem_cons] at hpascal
    rw [hchars] at hc
    obtain hc | hc := List.mem_append.mp hc
    · exact isWordChar_of_mem_cased hpascal.1 (.inr hc)
    · exact hpascal.2 c hc

theorem isWord_pascal (h : isIdentifier name = true) : IsWord (pascal name) :=
  (isWord_of_isIdentifier h).pascal

/-- A managed name does not start with a small letter. -/
theorem isLower_head?_pascal (h : isIdentifier name = true) :
    ∀ c ∈ (pascal name).toList.head?, c.isLower = false := by
  have hcased : ∀ c : Char, c.isAlphanum = true → c.toUpper.isLower = false := by
    intro c hc
    exact forall_of_isAscii (p := fun c => c.isAlphanum = true → c.toUpper.isLower = false)
      (by decide) (isAscii_of_isAlphanum hc) hc
  have hletters : ∀ ws : List (List Char), (∀ w ∈ ws, ∀ c ∈ w, c.isAlphanum = true) →
      ∀ c ∈ (ws.flatMap capitalize).head?, c.isLower = false := by
    intro ws hws
    induction ws with
    | nil => simp
    | cons w rest ih =>
      cases w with
      | nil => exact ih fun v hv => hws v (by simp [hv])
      | cons d w =>
        have hd : d.isAlphanum = true := hws (d :: w) (by simp) d (by simp)
        rw [List.flatMap_cons, capitalize, toUpper_ascii (isAscii_of_isAlphanum hd)]
        intro c hc
        obtain rfl : d.toUpper = c := by simpa using hc
        exact hcased d hd
  have hwords := hletters (words name.toList) fun w hw c => isAlphanum_of_mem_words h hw
  rw [pascal, String.toList_ofList]
  unfold pascalChars
  dsimp only
  split
  · simp
  · exact hwords

private theorem isIdentPart_of_mem_snake (h : isIdentifier name = true) {c : Char}
    (hc : c ∈ (snake name).toList) : isIdentPart c = true := by
  rw [snake, String.toList_ofList] at hc
  obtain rfl | ⟨d, hd, rfl⟩ := mem_snakeChars_cases h hc
  · decide
  · have hlower := toLower_ascii (isAscii_of_isAlphanum hd)
    exact isIdentPart_of_isAlphanum (isAlphanum_of_mem_cased hd (.inr (by simp [hlower])))

theorem isWord_snake (h : isIdentifier name = true) : IsWord (snake name) :=
  fun _ hc => isWordChar_of_isIdentPart (isIdentPart_of_mem_snake h hc)

theorem toList_tableName (name : String) : (tableName name).toList =
    (snakeChars name.toList).flatMap toUpper ++ "_HANDLES".toList := by
  rw [tableName, snake, String.toList_append, String.toList_ofList, String.toList_ofList, upperWord]

theorem isIdentPart_of_mem_tableName (h : isIdentifier name = true) {c : Char}
    (hc : c ∈ (tableName name).toList) : isIdentPart c = true := by
  have hend : ∀ d ∈ "_HANDLES".toList, isIdentPart d = true := by decide
  rw [toList_tableName, List.mem_append, List.mem_flatMap] at hc
  obtain ⟨e, he, hc⟩ | hc := hc
  · obtain rfl | ⟨l, hl, rfl⟩ := mem_snakeChars_cases h he
    · rw [toUpper_ascii (by decide), List.mem_singleton] at hc
      rw [hc]
      decide
    · have hlower := toLower_ascii (isAscii_of_isAlphanum hl)
      exact isIdentPart_of_isAlphanum (isAlphanum_of_mem_cased
        (isAlphanum_of_mem_cased hl (.inr (by simp [hlower]))) (.inl hc))
  · exact hend c hc

theorem isWord_tableName (h : isIdentifier name = true) : IsWord (tableName name) :=
  fun _ hc => isWordChar_of_isIdentPart (isIdentPart_of_mem_tableName h hc)

theorem IsWord.managedIdent (h : IsWord name) : IsWord (managedIdent name) := by
  unfold Naming.managedIdent
  split
  · exact IsWord.append (by decide) h
  · exact h

theorem IsWord.nativeIdent (h : IsWord name) : IsWord (nativeIdent name) := by
  unfold Naming.nativeIdent
  dsimp only
  split
  · exact IsWord.append (by decide) h.bare
  · exact h.bare

end Boundary.Naming
