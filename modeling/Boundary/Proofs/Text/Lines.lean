import Mathlib.Data.List.Basic
import Boundary.Proofs.Naming.Word
import Boundary.Proofs.Text.Split
import Boundary.Text.Lines
import Boundary.Text.Quoted

/-!
# Lines of texts that are put together

* `OneLine`: texts that stand on one line.
* `lines_feed`, `lines_intercalate`: the lines of a text with line feeds between its parts.
-/

namespace Boundary.Text

/-! ## Texts without line feeds -/

/-- A text without line feeds. -/
def OneLine (s : String) : Prop := '\n' ∉ s.toList

instance (s : String) : Decidable (OneLine s) := inferInstanceAs (Decidable ('\n' ∉ s.toList))

theorem OneLine.ofList {cs : List Char} (h : '\n' ∉ cs) : OneLine (String.ofList cs) := by
  rw [OneLine, String.toList_ofList]
  exact h

theorem OneLine.append {a b : String} (ha : OneLine a) (hb : OneLine b) : OneLine (a ++ b) := by
  rw [OneLine, String.toList_append, List.mem_append]
  exact fun h => h.elim ha hb

theorem OneLine.intercalate {between : String} {parts : List String} (hbetween : OneLine between)
    (hparts : ∀ part ∈ parts, OneLine part) : OneLine (between.intercalate parts) := by
  intro h
  obtain h | ⟨part, hpart, h⟩ := mem_intercalate h
  · exact hbetween h
  · exact hparts part hpart h

theorem oneLine_of_isWord {s : String} (h : Naming.IsWord s) : OneLine s := h.notMem (by decide)

theorem isWord_hexDigits (n : Nat) : Naming.IsWord (hexDigits n) := by
  rw [Naming.IsWord, hexDigits, String.toList_ofList]
  induction n using Nat.strongRecOn with
  | ind n ih =>
    have hdigits : ∀ d < 16, Naming.isWordChar d.digitChar = true := by decide
    rw [Nat.toDigits_eq_if (by decide)]
    split
    · rename_i hlt
      rw [List.forall_mem_singleton]
      exact hdigits n hlt
    · rw [List.forall_mem_append, List.forall_mem_singleton]
      exact ⟨ih (n / 16) (by omega), hdigits _ (Nat.mod_lt _ (by decide))⟩

private theorem oneLine_escapeChar (c : Char) : OneLine (escapeChar c) := by
  unfold escapeChar
  split
  -- The first six characters have a written form of their own.
  iterate 6 exact .ofList (by decide)
  rename_i hfeed _ _
  split
  · exact .append (.append (.ofList (by decide)) (oneLine_of_isWord (isWord_hexDigits _)))
      (.ofList (by decide))
  · rw [Char.toString, OneLine, String.toList_singleton, List.mem_singleton]
    exact fun h => hfeed h.symm

/-- A quoted text has no line feeds, whatever the text is. -/
theorem oneLine_quoted (s : String) : OneLine (quoted s) := by
  have hjoin : OneLine (String.join (s.toList.map escapeChar)) := by
    rw [OneLine, String.toList_join]
    intro h
    obtain ⟨t, ht, h⟩ := List.mem_flatMap.mp h
    obtain ⟨c, -, rfl⟩ := List.mem_map.mp ht
    exact oneLine_escapeChar c h
  exact .append (.append (OneLine.ofList (by decide)) hjoin) (OneLine.ofList (by decide))

/-! ## Texts with line feeds -/

private theorem linesFrom_append_feed {front : List Char} (h : '\n' ∉ front)
    (open_ back : List Char) :
    linesFrom open_ (front ++ '\n' :: back) =
      dropReturn (open_.reverse ++ front) :: linesFrom [] back := by
  induction front generalizing open_ with
  | nil => simp [linesFrom]
  | cons c front ih =>
    rw [List.mem_cons, not_or] at h
    rw [List.cons_append, linesFrom, if_neg (Ne.symm h.1), ih h.2]
    simp

private theorem linesFrom_of_notMem {cs : List Char} (h : '\n' ∉ cs) (open_ : List Char)
    (hne : open_ ≠ [] ∨ cs ≠ []) : linesFrom open_ cs = [open_.reverse ++ cs] := by
  induction cs generalizing open_ with
  | nil => simp [linesFrom, hne.resolve_right (· rfl)]
  | cons c cs ih =>
    rw [List.mem_cons, not_or] at h
    rw [linesFrom, if_neg (Ne.symm h.1), ih h.2 _ (.inl (by simp))]
    simp

theorem lines_feed {line rest : String} (h : OneLine line)
    (hreturn : line.toList.getLast? ≠ some '\r') :
    lines (line ++ "\n" ++ rest) = line :: lines rest := by
  have htext : (line ++ "\n" ++ rest).toList = line.toList ++ '\n' :: rest.toList := by simp
  rw [lines, htext, linesFrom_append_feed h, List.reverse_nil, List.nil_append, dropReturn,
    if_neg hreturn, List.map_cons, String.ofList_toList]
  rfl

theorem lines_of_oneLine {line : String} (h : OneLine line) (hne : line ≠ "") :
    lines line = [line] := by
  have hchars : line.toList ≠ [] := fun hnil => hne (String.toList_eq_nil_iff.mp hnil)
  rw [lines, linesFrom_of_notMem h [] (.inr hchars)]
  simp

/-- Some texts between which line feeds are put are the lines of the result. -/
theorem lines_intercalate {texts : List String}
    (h : ∀ text ∈ texts, OneLine text ∧ text.toList.getLast? ≠ some '\r')
    (hlast : ∀ text ∈ texts.getLast?, text ≠ "") : lines ("\n".intercalate texts) = texts := by
  induction texts with
  | nil => rfl
  | cons text rest ih =>
    rw [List.forall_mem_cons] at h
    cases rest with
    | nil =>
      rw [String.intercalate_singleton]
      exact lines_of_oneLine h.1.1 (hlast text rfl)
    | cons second rest =>
      rw [String.intercalate_cons_cons, lines_feed h.1.1 h.1.2, ih h.2 (by simpa using hlast)]

end Boundary.Text
