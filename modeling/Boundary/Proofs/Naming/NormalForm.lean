import Mathlib.Data.List.Basic
import Boundary.Proofs.Naming.Local
import Boundary.Proofs.Naming.SourceName
import Boundary.Proofs.Text.Split

/-!
# Names in the form of symbols

The `person_name` form of a name keeps what its managed forms are made of: where its words begin,
and its characters without regard to case. So names that differ in a managed form differ in symbols.

* `segments_eq_splitChars`: the parts between underscores are those of any other separator.
* `words_snakeChars`: the form has the words of the name, in small letters.
* `capitalize_lowerWord`: small letters do not change a capitalized word.
* `snake_isNormalForm`: the form is that of itself and has the managed forms of the name, and no
  character is lost.
-/

namespace Boundary.Naming

open Boundary.Text

/-! ## Words in small letters -/

/-- What small letters are. -/
theorem toLower_cases {c : Char} (h : c.isAlphanum = true) :
    isUpper c.toLower = false ∧ c.toLower.isAlphanum = true ∧ c.toLower.toLower = c.toLower ∧
      c.toLower.toUpper = c.toUpper := by
  refine forall_of_isAscii (p := fun c => c.isAlphanum = true → isUpper c.toLower = false ∧
    c.toLower.isAlphanum = true ∧ c.toLower.toLower = c.toLower ∧ c.toLower.toUpper = c.toUpper)
    (by decide +kernel) (isAscii_of_isAlphanum h) h

section Words

variable {w : List Char} (h : ∀ c ∈ w, c.isAlphanum = true)
include h

theorem lowerWord_eq_map : lowerWord w = w.map Char.toLower := lowerFrom_eq_map h []

theorem isAlphanum_of_mem_lowerWord : ∀ c ∈ lowerWord w, c.isAlphanum = true := by
  rw [lowerWord_eq_map h, List.forall_mem_map]
  exact fun c hc => (toLower_cases (h c hc)).2.1

theorem lowerWord_lowerWord : lowerWord (lowerWord w) = lowerWord w := by
  rw [lowerWord_eq_map (isAlphanum_of_mem_lowerWord h), lowerWord_eq_map h, List.map_map]
  exact List.map_congr_left fun c hc => (toLower_cases (h c hc)).2.2.1

/-- A word in small letters has no humps. -/
theorem humps_lowerWord (hne : w ≠ []) : humps (lowerWord w) = [lowerWord w] := by
  rw [lowerWord_eq_map h]
  cases w with
  | nil => exact absurd rfl hne
  | cons c rest =>
    rw [List.forall_mem_cons] at h
    rw [List.map_cons, humps_of_notUpper]
    rw [List.forall_mem_map]
    exact fun d hd => (toLower_cases (h.2 d hd)).1

private theorem flatMap_toLower : w.flatMap toLower = w.map Char.toLower := by
  rw [List.map_eq_flatMap]
  exact List.flatMap_congr fun c hc => toLower_ascii (isAscii_of_isAlphanum (h c hc))

/-- Small letters do not change a capitalized word. -/
theorem capitalize_lowerWord : capitalize (lowerWord w) = capitalize w := by
  have hlower := isAlphanum_of_mem_lowerWord h
  have hfixed := lowerWord_lowerWord h
  rw [lowerWord_eq_map hlower] at hfixed
  rw [lowerWord_eq_map h] at hlower hfixed ⊢
  cases w with
  | nil => rfl
  | cons c rest =>
    rw [List.map_cons, List.forall_mem_cons] at hlower
    rw [List.map_cons, List.map_cons] at hfixed
    rw [List.forall_mem_cons] at h
    rw [List.map_cons, capitalize, capitalize, flatMap_toLower hlower.2, flatMap_toLower h.2,
      (List.cons.inj hfixed).2, toUpper_ascii (isAscii_of_isAlphanum hlower.1),
      toUpper_ascii (isAscii_of_isAlphanum h.1), (toLower_cases h.1).2.2.2]

end Words

/-! ## Words of a form -/

theorem segments_eq_splitChars (cs : List Char) : segments cs = splitChars '_' cs := by
  induction cs with
  | nil => rfl
  | cons c rest ih =>
    rw [segments, splitChars, ih]
    split
    · rfl
    · cases splitChars '_' rest <;> rfl

private theorem bareChars_of_notMem {cs : List Char} (h : '#' ∉ cs) : bareChars cs = cs := by
  unfold bareChars
  split
  · simp at h
  · rfl

variable {a b : String}

theorem bareChars_snakeChars (h : isIdentifier a = true) :
    bareChars (snakeChars a.toList) = snakeChars a.toList := by
  refine bareChars_of_notMem fun hmem => ?_
  rcases mem_snakeChars_cases h hmem with hc | ⟨d, hd, hc⟩
  · cases hc
  · have hletter := (toLower_cases hd).2.1
    rw [← hc] at hletter
    cases hletter

/-- The form in symbols has the words of the name, in small letters. -/
theorem words_snakeChars (h : isIdentifier a = true) :
    words (snakeChars a.toList) = (words a.toList).map lowerWord := by
  have hletters : ∀ w ∈ words a.toList, ∀ c ∈ w, c.isAlphanum = true :=
    fun w hw c => isAlphanum_of_mem_words h hw
  have hhumps : ∀ w ∈ words a.toList, humps (lowerWord w) = [lowerWord w] :=
    fun w hw => humps_lowerWord (hletters w hw) (ne_nil_of_mem_words hw)
  rw [words, bareChars_snakeChars h, segments_eq_splitChars, snakeChars]
  by_cases hnil : words a.toList = []
  · rw [hnil]
    rfl
  · rw [splitChars_intercalate (by simpa using hnil), List.flatMap_map, List.flatMap_congr hhumps,
      List.map_eq_flatMap]
    rw [List.forall_mem_map]
    intro w hw hmem
    have := isAlphanum_of_mem_lowerWord (hletters w hw) '_' hmem
    cases this

/-- The characters of a form but its underscores are those of the name, in small letters. -/
theorem filter_snakeChars (h : isIdentifier a = true) :
    (snakeChars a.toList).filter (· ≠ '_') = (lowerWord (bareChars a.toList)).filter (· ≠ '_') := by
  have hpart : ∀ c ∈ bareChars a.toList, isAscii c = true ∧ (c.toLower = '_' ↔ c = '_') := by
    intro c hc
    have hascii := isAscii_of_isWordChar
      (isWordChar_of_isIdentPart (isIdentPart_of_mem_bareChars h hc))
    exact ⟨hascii, forall_of_isAscii (p := fun c => c.toLower = '_' ↔ c = '_') (by decide) hascii⟩
  have hlower : (words a.toList).map lowerWord = (words a.toList).map (List.map Char.toLower) :=
    List.map_congr_left fun w hw => lowerWord_eq_map fun c => isAlphanum_of_mem_words h hw
  have hchars : lowerWord (bareChars a.toList) = (bareChars a.toList).map Char.toLower :=
    lowerFrom_of_isAscii (fun c hc => (hpart c hc).1) []
  calc (snakeChars a.toList).filter (· ≠ '_')
      = (words (snakeChars a.toList)).flatten := by rw [flatten_words, bareChars_snakeChars h]
    _ = ((words a.toList).map (List.map Char.toLower)).flatten := by
        rw [words_snakeChars h, hlower]
    _ = ((bareChars a.toList).filter (· ≠ '_')).map Char.toLower := by
        rw [← List.map_flatten, flatten_words]
    _ = (lowerWord (bareChars a.toList)).filter (· ≠ '_') := by
        rw [hchars, List.filter_map]
        congr 1
        refine List.filter_congr fun c hc => ?_
        rw [Function.comp_apply, decide_eq_decide]
        exact (hpart c hc).2.not.symm

private theorem snakeChars_snakeChars (h : isIdentifier a = true) :
    snakeChars (snakeChars a.toList) = snakeChars a.toList := by
  have hletters : ∀ w ∈ words a.toList, lowerWord (lowerWord w) = lowerWord w :=
    fun w hw => lowerWord_lowerWord fun c => isAlphanum_of_mem_words h hw
  rw [snakeChars, words_snakeChars h, List.map_map, snakeChars]
  exact congrArg _ (List.map_congr_left hletters)

theorem pascalChars_snakeChars (h : isIdentifier a = true) :
    pascalChars (snakeChars a.toList) = pascalChars a.toList := by
  have hcapitals : ∀ w ∈ words a.toList, capitalize (lowerWord w) = capitalize w :=
    fun w hw => capitalize_lowerWord fun c => isAlphanum_of_mem_words h hw
  rw [pascalChars, words_snakeChars h, List.flatMap_map, List.flatMap_congr hcapitals, pascalChars]

/-! ## The form in symbols -/

private theorem pascal_snake (h : isIdentifier a = true) : pascal (snake a) = pascal a := by
  rw [pascal, snake, String.toList_ofList, pascalChars_snakeChars h, pascal]

private theorem camel_snake (h : isIdentifier a = true) : camel (snake a) = camel a := by
  rw [camel, snake, String.toList_ofList, camelChars, pascalChars_snakeChars h, camel, camelChars]

/-- **The form in symbols is a normal form**: it is its own, it has the managed forms of the name,
so that names with the same form have the same managed forms, and it holds the characters of the
name in their order, but for case and underscores. -/
theorem snake_isNormalForm (ha : isIdentifier a = true) (hb : isIdentifier b = true) :
    snake (snake a) = snake a ∧ pascal (snake a) = pascal a ∧ camel (snake a) = camel a ∧
      (snake a = snake b → pascal a = pascal b ∧ camel a = camel b) ∧
      (snake a).toList.filter (· ≠ '_') = (lowerWord (bare a).toList).filter (· ≠ '_') := by
  refine ⟨?_, pascal_snake ha, camel_snake ha, ?_, ?_⟩
  · rw [snake, snake, String.toList_ofList, snakeChars_snakeChars ha]
  · intro h
    rw [← pascal_snake ha, ← pascal_snake hb, ← camel_snake ha, ← camel_snake hb, h]
    exact ⟨rfl, rfl⟩
  · rw [snake, bare, String.toList_ofList, String.toList_ofList, filter_snakeChars ha]

/-- A run of capitals is one word, in front of another one too. -/
theorem snake_isNormalForm_capitals : isIdentifier "HTTPServer_2go" = true ∧
    isIdentifier "HttpServer_2go" = true ∧ snake "HTTPServer_2go" = snake "HttpServer_2go" ∧
    snake (snake "HTTPServer_2go") = snake "HTTPServer_2go" ∧
    pascal (snake "HTTPServer_2go") = pascal "HTTPServer_2go" ∧
    camel (snake "HTTPServer_2go") = camel "HTTPServer_2go" ∧
    (snake "HTTPServer_2go" = snake "HttpServer_2go" →
      pascal "HTTPServer_2go" = pascal "HttpServer_2go" ∧
        camel "HTTPServer_2go" = camel "HttpServer_2go") ∧
    (snake "HTTPServer_2go").toList.filter (· ≠ '_') =
      (lowerWord (bare "HTTPServer_2go").toList).filter (· ≠ '_') :=
  ⟨by decide, by decide, by decide, snake_isNormalForm (by decide) (by decide)⟩

end Boundary.Naming
