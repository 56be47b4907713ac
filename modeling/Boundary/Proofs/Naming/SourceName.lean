import Boundary.Proofs.Naming.Local
import Boundary.Proofs.Schema.Distinct

/-!
# Names that source can spell

Every usable name is spelled in managed source as a name of letters, digits and underscores. One
name is an exception: a single underscore is no name, but with the mark of a raw identifier it is
let through, and nothing is left of it in managed source.

* `IsSourceName`: the names that both languages can spell; `IsManagedName`: those of managed source.
* `bareChars_cases`: how usable names begin.
* `ne_nil_of_mem_words`, `words_eq_nil_iff`: which names have words.
* `head?_snakeChars`: what the form in symbols begins with.
* `isManagedName_iff`: the names that are spelled well; `not_isManagedName_underscore`: the
  exception.
-/

namespace Boundary.Naming

open Boundary.Text

/-! ## Spelled names -/

/-- A name of letters, digits and underscores that does not start with a digit. -/
structure IsSourceName (text : String) : Prop where
  ne_empty : text ≠ ""
  isIdentPart : ∀ c ∈ text.toList, isIdentPart c = true
  not_isDigit_head : text.toList.head?.any Char.isDigit = false

instance (text : String) : Decidable (IsSourceName text) :=
  decidable_of_iff (text ≠ "" ∧ (∀ c ∈ text.toList, isIdentPart c = true) ∧
      text.toList.head?.any Char.isDigit = false)
    ⟨fun h => ⟨h.1, h.2.1, h.2.2⟩, fun h => ⟨h.1, h.2, h.3⟩⟩

/-- A name that managed source can spell. Its spelling is no keyword. -/
structure IsManagedName (text : String) : Prop extends IsSourceName text where
  unreserved : managedIdent text ∉ managedKeywords

/-- A marked name is no keyword. -/
theorem managedIdent_notMem_managedKeywords (name : String) :
    managedIdent name ∉ managedKeywords := by
  have hmark : ∀ word ∈ managedKeywords, word.toList.head? ≠ some '@' := by decide +kernel
  unfold managedIdent
  split
  · exact fun hmem => hmark _ hmem (by simp [String.toList_append])
  · rename_i hkeyword
    exact fun hmem => hkeyword (List.contains_iff_mem.mpr hmem)

/-! ## The words of a name -/

private theorem ne_nil_of_mem_humps {cs w : List Char} (h : w ∈ humps cs) : w ≠ [] := by
  fun_induction humps cs with
  | case1 => cases h
  | case2 c => simp_all
  | case3 a b rest hstart ih =>
    obtain rfl | h := List.mem_cons.mp h
    · simp
    · exact ih h
  | case4 a b rest hstart v vs hhumps ih =>
    obtain rfl | h := List.mem_cons.mp h
    · simp
    · exact ih (by simp [hhumps, h])
  | case5 a b rest hstart hhumps ih => simp_all

theorem ne_nil_of_mem_words {cs w : List Char} (h : w ∈ words cs) : w ≠ [] := by
  obtain ⟨segment, -, hw⟩ := List.mem_flatMap.mp h
  exact ne_nil_of_mem_humps hw

variable {name : String}

/-- A usable name begins with a letter, or with an underscore before a letter or digit, or it is an
underscore with the mark of a raw identifier. -/
theorem bareChars_cases (h : isUsableName name = true) :
    (∃ c rest, bareChars name.toList = c :: rest ∧ c.isAlpha = true) ∨
      (∃ d rest, bareChars name.toList = '_' :: d :: rest ∧ d.isAlphanum = true) ∨
      name = "r#_" := by
  have hidentifier := isIdentifier_of_isUsableName h
  have hchars := hidentifier
  simp only [isIdentifier, Bool.and_eq_true, decide_eq_true_eq] at hchars
  obtain ⟨⟨hstart, hone⟩, -⟩ := hchars
  cases hbare : bareChars name.toList with
  | nil => simp [hbare] at hstart
  | cons c rest =>
    simp only [hbare, Bool.and_eq_true, isIdentStart, Bool.or_eq_true, decide_eq_true_eq]
      at hstart
    obtain hc | rfl := hstart.1
    · exact .inl ⟨c, rest, rfl, hc⟩
    cases rest with
    | cons d rest =>
      refine .inr (.inl ⟨d, rest, rfl, ?_⟩)
      have hpart := isIdentPart_of_mem_bareChars hidentifier (c := d) (by simp [hbare])
      -- Names with two underscores in front are kept for generated code.
      have hd : d ≠ '_' := by
        rintro rfl
        refine not_isMade_bare h ?_
        rw [IsMade, toList_bare, hbare]
        exact ⟨rest, rfl⟩
      simpa [isIdentPart, hd] using hpart
    | nil =>
      refine .inr (.inr (String.toList_injective ?_))
      unfold bareChars at hbare
      split at hbare
      · rename_i hraw
        rw [hraw, hbare]
        rfl
      · exact absurd (String.toList_injective hbare) hone

/-- Every usable name but the exception has words. -/
theorem words_eq_nil_iff (h : isUsableName name = true) :
    words name.toList = [] ↔ name = "r#_" := by
  constructor
  · intro hwords
    have hchars := flatten_words name.toList
    rw [hwords, List.flatten_nil] at hchars
    -- The words hold every other character, so without words there is none.
    have hunderscores : ∀ c ∈ bareChars name.toList, c = '_' := by
      simpa using List.filter_eq_nil_iff.mp hchars.symm
    have hletter : Char.isAlphanum '_' = false := by decide
    obtain ⟨c, rest, hbare, hc⟩ | ⟨d, rest, hbare, hd⟩ | hname := bareChars_cases h
    · rw [hunderscores c (by simp [hbare])] at hc
      cases hc
    · rw [hunderscores d (by simp [hbare]), hletter] at hd
      cases hd
    · exact hname
  · rintro rfl
    decide

/-- What the form in symbols begins with is what the name begins with behind its underscores. -/
theorem head?_snakeChars (h : isIdentifier name = true) :
    (snakeChars name.toList).head? =
      ((bareChars name.toList).filter (· ≠ '_')).head?.map Char.toLower := by
  rw [← flatten_words, snakeChars]
  cases hwords : words name.toList with
  | nil => rfl
  | cons w rest =>
    have hw : w ∈ words name.toList := by simp [hwords]
    cases w with
    | nil => exact absurd rfl (ne_nil_of_mem_words hw)
    | cons c cs =>
      have hlower : lowerWord (c :: cs) = (c :: cs).map Char.toLower :=
        lowerFrom_eq_map (fun d hd => isAlphanum_of_mem_words h hw hd) []
      cases rest <;> simp [hlower, List.intercalate_cons_cons]

/-! ## Managed names -/

theorem pascalChars_eq_nil_iff (h : isIdentifier name = true) :
    pascalChars name.toList = [] ↔ words name.toList = [] := by
  have hcapital : ∀ w ∈ words name.toList, capitalize w ≠ [] := by
    intro w hw
    cases w with
    | nil => exact absurd rfl (ne_nil_of_mem_words hw)
    | cons c cs =>
      have hc := isAlphanum_of_mem_words h hw List.mem_cons_self
      simp [capitalize, toUpper_ascii (isAscii_of_isAlphanum hc)]
  unfold pascalChars
  dsimp only
  split
  · rename_i hdigit
    simp only [reduceCtorEq, false_iff]
    intro hwords
    simp [hwords] at hdigit
  · rw [List.flatMap_eq_nil_iff]
    exact ⟨fun hnil => List.eq_nil_iff_forall_not_mem.mpr fun w hw => hcapital w hw (hnil w hw),
      fun hnil => by simp [hnil]⟩

private theorem isManagedName_pascal (h : isIdentifier name = true)
    (hwords : words name.toList ≠ []) : IsManagedName (pascal name) := by
  have hchars : (pascal name).toList = pascalChars name.toList := String.toList_ofList
  refine ⟨⟨?_, fun c => isIdentPart_of_mem_pascal h, ?_⟩, managedIdent_notMem_managedKeywords _⟩
  · intro hempty
    rw [hempty, String.toList_empty] at hchars
    exact hwords ((pascalChars_eq_nil_iff h).mp hchars.symm)
  · rw [hchars]
    obtain ⟨letters, -, ⟨heq, hdigit⟩ | ⟨heq, -⟩⟩ := pascalChars_cases h
    · rw [heq]
      exact hdigit
    · rw [heq]
      rfl

private theorem isManagedName_camel (h : isIdentifier name = true)
    (hwords : words name.toList ≠ []) : IsManagedName (camel name) := by
  have hchars : (camel name).toList = camelChars name.toList := String.toList_ofList
  obtain ⟨c, rest, hpascal⟩ := List.exists_cons_of_ne_nil
    (mt (pascalChars_eq_nil_iff h).mp hwords)
  have hcamel := (camelChars_cons h hpascal).1
  refine ⟨⟨?_, fun d => isIdentPart_of_mem_camel h, ?_⟩, managedIdent_notMem_managedKeywords _⟩
  · intro hempty
    rw [hempty, hcamel] at hchars
    cases hchars
  · rw [hchars, hcamel]
    have hcases := (pascalChars_head_cases h hpascal).imp_right And.left
    exact forall_of_isAscii (p := fun c => c.isUpper = true ∨ c = '_' →
      c.toLower.isDigit = false) (by decide) (toUpper_toLower_of_isUpper hcases).1 hcases

/-- **A usable name is spelled well in managed source**, in either form, exactly if it is not an
underscore with the mark of a raw identifier. -/
theorem isManagedName_iff (h : isUsableName name = true) :
    IsManagedName (pascal name) ∧ IsManagedName (camel name) ↔ name ≠ "r#_" := by
  have hidentifier := isIdentifier_of_isUsableName h
  constructor
  · rintro ⟨hpascal, -⟩ rfl
    exact hpascal.ne_empty (by decide)
  · intro hname
    have hwords := mt (words_eq_nil_iff h).mp hname
    exact ⟨isManagedName_pascal hidentifier hwords, isManagedName_camel hidentifier hwords⟩

/-- An underscore keeps a leading digit apart, as in the declared name. -/
theorem isManagedName_iff_digit : isUsableName "_3d" = true ∧
    IsManagedName (pascal "_3d") ∧ IsManagedName (camel "_3d") :=
  ⟨by decide +kernel, (isManagedName_iff (by decide +kernel)).mpr (by decide)⟩

/-- Nothing is left of an underscore with the mark of a raw identifier. -/
theorem not_isManagedName_underscore : isUsableName "r#_" = true ∧ pascal "r#_" = "" ∧
    camel "r#_" = "" ∧ ¬ (IsManagedName (pascal "r#_") ∧ IsManagedName (camel "r#_")) := by
  have hempty : pascal "r#_" = "" := by decide
  exact ⟨by decide +kernel, hempty, by decide, fun h => h.1.ne_empty hempty⟩

end Boundary.Naming
