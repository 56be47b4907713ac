import Boundary.Managed.Support
import Boundary.Proofs.Text.Lines

/-!
# The text of support code

Support code is written as one text. Cut into lines again, the text consists of the lines that it is
put together of.

* `IsLine`: a text that is one line of a text.
* `forall_mem_enclosed`, `forall_mem_separated`: what holds of all lines of a declaration, and of
  several.
* `lines_supportText`: the lines of support code.
* `mem_separated`: the lines of each type are among them.
-/

namespace Boundary.Managed

open Text

/-! ## Lines that are put together -/

section Forall

variable {p : String → Prop}

theorem forall_mem_indented (hempty : p "") (hindent : ∀ text, p text → p ("    " ++ text))
    {texts : List String} (h : ∀ text ∈ texts, p text) : ∀ text ∈ indented texts, p text := by
  rw [indented, List.forall_mem_map]
  intro text htext
  split
  · exact hempty
  · exact hindent text (h text htext)

theorem forall_mem_enclosed (hempty : p "") (hindent : ∀ text, p text → p ("    " ++ text))
    (hopen : p "\x7b") (hclose : p "\x7d") {header : String} (hheader : p header)
    {body : List String} (hbody : ∀ text ∈ body, p text) :
    ∀ text ∈ enclosed header body, p text := by
  rw [enclosed, List.cons_append, List.forall_mem_cons, List.cons_append, List.forall_mem_cons,
    List.forall_mem_append, List.forall_mem_singleton]
  exact ⟨hheader, hopen, forall_mem_indented hempty hindent hbody, hclose⟩

private theorem forall_mem_switched (hempty : p "") (hindent : ∀ text, p text → p ("    " ++ text))
    (hopen : p "\x7b") (hclose : p "\x7d;") {header : String} (hheader : p header)
    {arms : List String} (harms : ∀ text ∈ arms, p text) :
    ∀ text ∈ switched header arms, p text := by
  rw [switched, List.cons_append, List.forall_mem_cons, List.cons_append, List.forall_mem_cons,
    List.forall_mem_append, List.forall_mem_singleton]
  exact ⟨hheader, hopen, forall_mem_indented hempty hindent harms, hclose⟩

theorem forall_mem_separated (hempty : p "") {parts : List (List String)}
    (h : ∀ texts ∈ parts, ∀ text ∈ texts, p text) : ∀ text ∈ separated parts, p text := by
  fun_induction separated parts with
  | case1 => exact List.forall_mem_nil _
  | case2 texts => exact h texts List.mem_cons_self
  | case3 texts rest _ ih =>
    rw [List.forall_mem_cons] at h
    rw [List.forall_mem_append, List.forall_mem_cons]
    exact ⟨h.1, hempty, ih h.2⟩

end Forall

/-! ## Lines of support code -/

/-- A text that is one line of a text: it has no line feed, and no carriage return that could
belong to one. -/
structure IsLine (text : String) : Prop where
  oneLine : OneLine text
  noReturn : '\r' ∉ text.toList

theorem IsLine.ofList {cs : List Char} (h : '\n' ∉ cs ∧ '\r' ∉ cs) : IsLine (String.ofList cs) :=
  ⟨.ofList h.1, by rw [String.toList_ofList]; exact h.2⟩

theorem IsLine.append {a b : String} (ha : IsLine a) (hb : IsLine b) : IsLine (a ++ b) := by
  refine ⟨ha.oneLine.append hb.oneLine, ?_⟩
  rw [String.toList_append, List.mem_append]
  exact fun h => h.elim ha.noReturn hb.noReturn

theorem IsLine.managedIdent {name : String} (h : IsLine name) :
    IsLine (Naming.managedIdent name) := by
  unfold Naming.managedIdent
  split
  · exact (IsLine.ofList (by decide)).append h
  · exact h

theorem isLine_of_isWord {s : String} (h : Naming.IsWord s) : IsLine s :=
  ⟨oneLine_of_isWord h, h.notMem (by decide)⟩

private theorem isLine_supportTypes {bufferFree : String} (h : IsLine bufferFree) :
    ∀ t ∈ supportTypes bufferFree, ∀ text ∈ t.lines, IsLine text := by
  simp only [supportTypes, List.forall_mem_cons, List.not_mem_nil, false_imp_iff, implies_true,
    and_true]
  have hempty : IsLine "" := .ofList (by decide)
  have hindent (text : String) (htext : IsLine text) : IsLine ("    " ++ text) :=
    (IsLine.ofList (by decide)).append htext
  have hopen : IsLine "\x7b" := .ofList (by decide)
  have hclose : IsLine "\x7d" := .ofList (by decide)
  have hcloseChoice : IsLine "\x7d;" := .ofList (by decide)
  refine ⟨?_, ?_, ?_, ?_, ?_, ?_, ?_, ?_, ?_, ?_, ?_, ?_⟩
  all_goals
    repeat' first
    | exact List.forall_mem_nil _
    | refine forall_mem_enclosed hempty hindent hopen hclose ?_ ?_
    | refine forall_mem_switched hempty hindent hopen hcloseChoice ?_ ?_
    | refine List.forall_mem_append.mpr ⟨?_, ?_⟩
    | refine List.forall_mem_cons.mpr ⟨?_, ?_⟩
    | exact .ofList (by decide)
    | refine IsLine.append ?_ ?_
    | exact h

private theorem getLast?_separated {parts : List (List String)} (texts : List String)
    (hne : texts ≠ []) : (separated (parts ++ [texts])).getLast? = texts.getLast? := by
  induction parts with
  | nil => rfl
  | cons first rest ih =>
    have hrest : rest ++ [texts] ≠ [] := by simp
    obtain ⟨second, others, heq⟩ := List.exists_cons_of_ne_nil hrest
    rw [List.cons_append, heq, separated, ← heq, List.getLast?_append, List.getLast?_cons, ih]
    · simp [List.getLast?_eq_some_getLast hne]
    · simp

/-- **The lines of the text of support code.** -/
theorem lines_supportText {bufferFree : String} (h : IsLine bufferFree) :
    Text.lines (supportText bufferFree) = supportLines bufferFree := by
  have hall : ∀ text ∈ supportLines bufferFree, IsLine text := by
    refine forall_mem_separated (.ofList (by decide)) ?_
    rw [List.forall_mem_map]
    exact isLine_supportTypes h
  refine lines_intercalate (fun text htext => ⟨(hall text htext).oneLine, fun hlast => ?_⟩) ?_
  · exact (hall text htext).noReturn (List.mem_of_getLast? hlast)
  · have hlines : supportLines bufferFree =
        separated (((supportTypes bufferFree).dropLast.map (·.lines)) ++ [ffi bufferFree]) := rfl
    have hlast : (ffi bufferFree).getLast? = some "\x7d" := by
      rw [ffi, enclosed, List.getLast?_concat]
    rw [hlines, getLast?_separated _ (by simp [ffi, enclosed]), hlast]
    simp

/-- The lines of a type are lines of support code. -/
theorem mem_separated {parts : List (List String)} {texts : List String} (h : texts ∈ parts)
    {text : String} (htext : text ∈ texts) : text ∈ separated parts := by
  fun_induction separated parts with
  | case1 => cases h
  | case2 first =>
    obtain rfl := List.mem_singleton.mp h
    exact htext
  | case3 first rest _ ih =>
    rw [List.mem_append, List.mem_cons]
    obtain rfl | h := List.mem_cons.mp h
    · exact .inl htext
    · exact .inr (.inr (ih h))

end Boundary.Managed
