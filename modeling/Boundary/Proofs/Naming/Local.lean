import Mathlib.Data.List.Basic
import Boundary.Managed.Source
import Boundary.Proofs.Naming.Word
import Boundary.Schema.Names

/-!
# Names of parameters and variables

Parameters are named after declared items, in native code as declared and in managed code in camel
case, and temporaries in Pascal case behind a mark. Which names can meet is the same for all of
these forms, and none of the parameters starts like the names that are made up.

* `IsMade`: the names that are made up in generated code.
* `camel_eq_iff`: names that are different in Pascal case are different in camel case.
* `nativeIdent_eq_iff`: the mark of a keyword tells no names apart.
* `not_isMade_bare`, `not_isMade_nativeIdent`, `not_isMade_camel`: parameters are not made up.
* `isUsableName_itemName`, `pascal_itemName`: the parameters for the places of a tuple.
* `unmarked_paramName`, `unmarked_importName`: managed parameters without the mark of a keyword.
-/

namespace Boundary

namespace Naming

open Boundary.Text

/-- The name starts like those that are made up in generated code. -/
def IsMade (name : String) : Prop := ['_', '_'] <+: name.toList

instance (name : String) : Decidable (IsMade name) := by unfold IsMade; infer_instance

theorem isMade_append {front : String} (h : IsMade front) (back : String) :
    IsMade (front ++ back) := by
  rw [IsMade, String.toList_append]
  exact h.trans (List.prefix_append _ _)

/-! ## Characters -/

variable {name a b : String}

theorem isAlphanum_eq (c : Char) : c.isAlphanum = (c.isUpper || c.isLower || c.isDigit) := rfl

/-- A managed name starts with a capital letter, or with an underscore before a digit. -/
theorem pascalChars_head_cases (h : isIdentifier name = true) {c : Char} {rest : List Char}
    (hchars : pascalChars name.toList = c :: rest) :
    c.isUpper = true ∨ c = '_' ∧ ∃ d rest', rest = d :: rest' ∧ d.isDigit = true := by
  have hlower : c.isLower = false := by
    refine isLower_head?_pascal h c ?_
    rw [pascal, String.toList_ofList, hchars]
    rfl
  obtain ⟨letters, halnum, ⟨heq, hdigit⟩ | ⟨heq, hdigit⟩⟩ := pascalChars_cases h
  · rw [hchars] at heq
    subst heq
    have hc := halnum c List.mem_cons_self
    have hnot : c.isDigit = false := by simpa using hdigit
    left
    simpa [isAlphanum_eq, hlower, hnot] using hc
  · rw [hchars] at heq
    obtain ⟨rfl, rfl⟩ := List.cons.inj heq
    cases rest with
    | nil => simp at hdigit
    | cons d rest' => exact .inr ⟨rfl, d, rest', rfl, by simpa using hdigit⟩

theorem toUpper_toLower_of_isUpper {c : Char} (h : c.isUpper = true ∨ c = '_') :
    isAscii c = true ∧ c.toLower.toUpper = c := by
  have hascii : isAscii c = true := by
    obtain h | rfl := h
    · exact isAscii_of_isAlphanum (by simp [isAlphanum_eq, h])
    · decide
  exact ⟨hascii, forall_of_isAscii (p := fun c => c.isUpper = true ∨ c = '_' →
    c.toLower.toUpper = c) (by decide) hascii h⟩

/-- The first letter in camel case tells the one in Pascal case. -/
theorem camelChars_cons (h : isIdentifier name = true) {c : Char} {rest : List Char}
    (hchars : pascalChars name.toList = c :: rest) :
    camelChars name.toList = c.toLower :: rest ∧ c.toLower.toUpper = c := by
  have hcases := pascalChars_head_cases h hchars
  obtain ⟨hascii, hc⟩ := toUpper_toLower_of_isUpper (hcases.imp_right And.left)
  rw [camelChars, hchars]
  dsimp only
  rw [toLower_ascii hascii]
  exact ⟨rfl, hc⟩

/-! ## Names that meet -/

/-- Names that are different in Pascal case are different in camel case, and the other way
round. -/
theorem camel_eq_iff (ha : isIdentifier a = true) (hb : isIdentifier b = true) :
    camel a = camel b ↔ pascal a = pascal b := by
  constructor
  · intro h
    have hchars : camelChars a.toList = camelChars b.toList := String.ofList_injective h
    refine congrArg String.ofList ?_
    cases hpa : pascalChars a.toList with
    | nil =>
      cases hpb : pascalChars b.toList with
      | nil => rfl
      | cons d rest' =>
        rw [(camelChars_cons hb hpb).1, camelChars, hpa] at hchars
        cases hchars
    | cons c rest =>
      cases hpb : pascalChars b.toList with
      | nil =>
        rw [(camelChars_cons ha hpa).1, camelChars, hpb] at hchars
        cases hchars
      | cons d rest' =>
        rw [(camelChars_cons ha hpa).1, (camelChars_cons hb hpb).1] at hchars
        obtain ⟨hc, rfl⟩ := List.cons.inj hchars
        rw [← (camelChars_cons ha hpa).2, ← (camelChars_cons hb hpb).2, hc]
  · intro h
    have hchars : pascalChars a.toList = pascalChars b.toList := String.ofList_injective h
    rw [camel, camel, camelChars, camelChars, hchars]

theorem toList_bare : (bare name).toList = bareChars name.toList := by
  rw [bare, String.toList_ofList]

/-- An identifier has no mark of a keyword but in front. -/
theorem ne_hash_of_mem_bare (h : isIdentifier name = true) : '#' ∉ (bare name).toList := by
  intro hmem
  rw [toList_bare] at hmem
  exact absurd (isIdentPart_of_mem_bareChars h hmem) (by decide)

/-- The mark of a keyword tells no names apart in native code. -/
theorem nativeIdent_eq_iff (ha : isIdentifier a = true) (hb : isIdentifier b = true) :
    nativeIdent a = nativeIdent b ↔ bare a = bare b := by
  have hmark {x y : String} (hy : '#' ∉ y.toList) : "r#" ++ x ≠ y := by
    rintro rfl
    exact hy (by simp)
  constructor
  · intro h
    unfold nativeIdent at h
    dsimp only at h
    split at h
    · split at h
      · have hchars := congrArg String.toList h
        rw [String.toList_append, String.toList_append] at hchars
        exact String.toList_injective (List.append_cancel_left hchars)
      · exact absurd h (hmark (ne_hash_of_mem_bare hb))
    · split at h
      · exact absurd h.symm (hmark (ne_hash_of_mem_bare ha))
      · exact h
  · intro h
    rw [nativeIdent, nativeIdent, h]

/-! ## Names that are not made up -/

theorem not_isMade_bare (h : isUsableName name = true) : ¬ IsMade (bare name) := by
  intro hmade
  have hstart : (bare name).startsWith "__" = true := String.startsWith_string_iff.mpr hmade
  unfold isUsableName identifierProblem? at h
  rw [hstart] at h
  split at h <;> simp at h

theorem not_isMade_nativeIdent (h : isUsableName name = true) : ¬ IsMade (nativeIdent name) := by
  unfold nativeIdent
  dsimp only
  split
  · intro hmade
    rw [IsMade, String.toList_append] at hmade
    have hfirst : '_' = 'r' := (List.cons_prefix_cons.mp hmade).1
    exact absurd hfirst (by decide)
  · exact not_isMade_bare h

theorem not_isMade_camel (h : isIdentifier name = true) : ¬ IsMade (camel name) := by
  rw [IsMade, camel, String.toList_ofList]
  cases hchars : pascalChars name.toList with
  | nil =>
    rw [camelChars, hchars]
    simp
  | cons c rest =>
    rw [(camelChars_cons h hchars).1]
    intro hmade
    obtain ⟨hfirst, hrest⟩ := List.cons_prefix_cons.mp hmade
    obtain hupper | ⟨rfl, d, rest', rfl, hdigit⟩ := pascalChars_head_cases h hchars
    · -- No capital letter has an underscore as its small form.
      have hc := (toUpper_toLower_of_isUpper (.inl hupper)).2
      rw [← hfirst] at hc
      rw [← hc] at hupper
      exact absurd hupper (by decide)
    · rw [← (List.cons_prefix_cons.mp hrest).1] at hdigit
      exact absurd hdigit (by decide)

/-! ## Places of tuples -/

section Items

variable (n : Nat)

theorem toList_itemName : (FieldName.index n).paramName.toList =
    'i' :: 't' :: 'e' :: 'm' :: (toString n).toList := by
  show (toString "item" ++ toString n).toList = _
  rw [String.toList_append]
  rfl

theorem isDigit_of_mem_toString {c : Char} (hc : c ∈ (toString n).toList) : c.isDigit = true := by
  rw [Nat.toString_eq_repr, Nat.repr_eq_ofList_toDigits, String.toList_ofList] at hc
  exact Nat.isDigit_of_mem_toDigits (by omega) (by omega) hc

theorem bareChars_itemName : bareChars (FieldName.index n).paramName.toList =
    'i' :: 't' :: 'e' :: 'm' :: (toString n).toList := by
  rw [toList_itemName]
  rfl

theorem bare_itemName : bare (FieldName.index n).paramName = (FieldName.index n).paramName := by
  rw [bare, bareChars_itemName, ← toList_itemName, String.ofList_toList]

/-- The name of the parameter for a place may be that of an item. -/
theorem isUsableName_itemName : isUsableName (FieldName.index n).paramName = true := by
  have hne {text : String} (hfirst : text.toList.head? ≠ some 'i') :
      (FieldName.index n).paramName ≠ text := by
    rintro rfl
    rw [toList_itemName] at hfirst
    exact hfirst rfl
  have hraw : nativeNonRaw.contains (FieldName.index n).paramName = false := by
    rw [List.contains_eq_mem, decide_eq_false_iff_not]
    intro hmem
    have hfirst : ∀ text ∈ nativeNonRaw, text.toList.head? ≠ some 'i' := by decide
    exact absurd rfl (hne (hfirst _ hmem))
  have hparts : (toString n).toList.all isIdentPart = true := by
    rw [List.all_eq_true]
    intro c hc
    simp [isIdentPart, Char.isAlphanum, isDigit_of_mem_toString n hc]
  have hidentifier : isIdentifier (FieldName.index n).paramName = true := by
    have hstart : isIdentStart 'i' = true ∧ isIdentPart 't' = true ∧ isIdentPart 'e' = true ∧
        isIdentPart 'm' = true := by decide
    have hone : (FieldName.index n).paramName ≠ "_" := hne (by decide)
    simp only [isIdentifier, bareChars_itemName, bare_itemName, hraw, List.all_cons, hstart,
      hparts, Bool.and_true, Bool.not_false, ne_eq, hone, not_false_eq_true, decide_true]
  have hmade : ¬ (FieldName.index n).paramName.startsWith "__" = true := by
    rw [String.startsWith_string_iff, toList_itemName]
    simp
  simp [isUsableName, identifierProblem?, hidentifier, bare_itemName, hmade]

private theorem segments_of_notMem {cs : List Char} (h : '_' ∉ cs) : segments cs = [cs] := by
  induction cs with
  | nil => rfl
  | cons c rest ih =>
    rw [List.mem_cons, not_or] at h
    rw [segments, if_neg (Ne.symm h.1), ih h.2]

theorem humps_of_notUpper {c : Char} {rest : List Char} (h : ∀ d ∈ rest, isUpper d = false) :
    humps (c :: rest) = [c :: rest] := by
  induction rest generalizing c with
  | nil => rfl
  | cons d rest ih =>
    rw [List.forall_mem_cons] at h
    rw [humps, ih h.2]
    simp [startsWord, h.1]

/-- The name of a place in Pascal case is that of a property. -/
theorem pascal_itemName : pascal (FieldName.index n).paramName = "Item" ++ toString n := by
  have hdigits : ∀ c ∈ (toString n).toList, '_' ≠ c ∧ isUpper c = false ∧ toLower c = [c] := by
    intro c hc
    have hdigit := isDigit_of_mem_toString n hc
    have hascii : isAscii c = true := isAscii_of_isAlphanum (by simp [Char.isAlphanum, hdigit])
    have hfacts := forall_of_isAscii (p := fun c => c.isDigit = true →
      '_' ≠ c ∧ isUpper c = false ∧ c.toLower = c) (by decide) hascii hdigit
    exact ⟨hfacts.1, hfacts.2.1, (toLower_ascii hascii).trans (congrArg (fun d => [d]) hfacts.2.2)⟩
  have hwords : words (FieldName.index n).paramName.toList =
      [(FieldName.index n).paramName.toList] := by
    have hletters : isUpper 't' = false ∧ isUpper 'e' = false ∧ isUpper 'm' = false := by decide
    rw [words, bareChars_itemName, toList_itemName, segments_of_notMem, List.flatMap_singleton,
      humps_of_notUpper]
    · simpa [hletters] using fun c hc => (hdigits c hc).2.1
    · simp
  have hlower : (toString n).toList.flatMap toLower = (toString n).toList := by
    have hcongr := List.flatMap_congr (fun c hc => (hdigits c hc).2.2)
    rw [hcongr, List.flatMap_singleton']
  have hcapital : capitalize ('i' :: 't' :: 'e' :: 'm' :: (toString n).toList) =
      'I' :: 't' :: 'e' :: 'm' :: (toString n).toList := by
    rw [capitalize, List.flatMap_cons, List.flatMap_cons, List.flatMap_cons, hlower]
    rfl
  refine String.toList_injective ?_
  rw [pascal, String.toList_ofList, pascalChars, hwords, List.flatMap_singleton, toList_itemName,
    hcapital, String.toList_append]
  rfl

end Items

/-! ## Managed parameters -/

/-- The mark of a keyword is found again. -/
theorem unmarked_managedIdent (h : '@' ∉ name.toList) :
    Managed.unmarked (managedIdent name) = name := by
  have hdrop : name.toList.dropWhile (· = '@') = name.toList := by
    cases hchars : name.toList with
    | nil => rfl
    | cons c rest =>
      rw [hchars, List.mem_cons, not_or] at h
      rw [List.dropWhile_cons_of_neg (by simpa using Ne.symm h.1)]
  unfold managedIdent
  split
  · rw [Managed.unmarked, String.toList_append]
    show String.ofList (name.toList.dropWhile (· = '@')) = name
    rw [hdrop, String.ofList_toList]
  · rw [Managed.unmarked, hdrop, String.ofList_toList]

/-- Names without the mark of a keyword consist of letters, digits and underscores. -/
theorem isIdentPart_of_mem_pascal (h : isIdentifier name = true) {c : Char}
    (hc : c ∈ (pascal name).toList) : isIdentPart c = true := by
  have hpart {d : Char} (hd : d.isAlphanum = true) : isIdentPart d = true := by
    simp [isIdentPart, hd]
  rw [pascal, String.toList_ofList] at hc
  obtain ⟨letters, halnum, ⟨heq, -⟩ | ⟨heq, -⟩⟩ := pascalChars_cases h
  · rw [heq] at hc
    exact hpart (halnum c hc)
  · rw [heq] at hc
    obtain rfl | hc := List.mem_cons.mp hc
    · decide
    · exact hpart (halnum c hc)

theorem isIdentPart_of_mem_camel (h : isIdentifier name = true) {c : Char}
    (hc : c ∈ (camel name).toList) : isIdentPart c = true := by
  have hpascal : ∀ d ∈ pascalChars name.toList, isIdentPart d = true :=
    fun d hd => isIdentPart_of_mem_pascal h (by rwa [pascal, String.toList_ofList])
  rw [camel, String.toList_ofList] at hc
  cases hchars : pascalChars name.toList with
  | nil =>
    rw [camelChars, hchars] at hc
    cases hc
  | cons first rest =>
    rw [hchars, List.forall_mem_cons] at hpascal
    have hcases := (pascalChars_head_cases h hchars).imp_right And.left
    rw [(camelChars_cons h hchars).1] at hc
    obtain rfl | hc := List.mem_cons.mp hc
    · exact forall_of_isAscii (p := fun c => c.isUpper = true ∨ c = '_' →
        isIdentPart c.toLower = true) (by decide) (toUpper_toLower_of_isUpper hcases).1 hcases
    · exact hpascal.2 c hc

theorem unmarked_paramName (h : isIdentifier name = true) :
    Managed.unmarked (Managed.paramName name) = camel name :=
  unmarked_managedIdent fun hat => absurd (isIdentPart_of_mem_camel h hat) (by decide)

theorem unmarked_importName (h : isIdentifier name = true) :
    Managed.unmarked (Managed.importName name) = bare name := by
  refine unmarked_managedIdent fun hat => ?_
  rw [toList_bare] at hat
  exact absurd (isIdentPart_of_mem_bareChars h hat) (by decide)

end Naming

end Boundary
