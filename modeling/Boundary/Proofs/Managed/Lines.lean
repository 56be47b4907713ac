import Mathlib.Data.List.Basic
import Boundary.Proofs.Managed.Levels

/-!
# Reading code line by line

What some code says can be read off its lines. Only the lines of the code itself are looked at, not
those of the levels in it.

* `readPart`, `readLines`: what is read off the lines of some code.
* `ReadsLines`: balanced code with what is read off its lines; `ReadsLines.append`,
  `readsLines_declared`, `ReadsLines.spaced` and so on: the ways to put such code together.
-/

namespace Boundary.Managed

open Source

section Reading

variable {α : Type} (read : String → Option α)

/-- What is read off a part that is a line. -/
def readPart : Part → Option α
  | .line text => read text
  | .blank | .block _ _ _ => none

/-- What is read off the lines of some code. -/
def readLines (code : List Code) : List α := (parts code).filterMap (readPart read)

/-- Balanced code with these results, which are read off its lines. -/
structure ReadsLines (code : List Code) (results : List α) : Prop where
  balanced : Balanced code
  eq : readLines read code = results

variable {read}

theorem readsLines_nil : ReadsLines read [] [] := ⟨.nil, rfl⟩

theorem ReadsLines.append {a b : List Code} {results results' : List α}
    (ha : ReadsLines read a results) (hb : ReadsLines read b results') :
    ReadsLines read (a ++ b) (results ++ results') := by
  refine ⟨ha.balanced.append hb.balanced, ?_⟩
  rw [readLines, parts_append ha.balanced hb.balanced, List.filterMap_append, ← ha.eq, ← hb.eq]
  rfl

theorem readsLines_line {text : String} {results : List α} (h : (read text).toList = results) :
    ReadsLines read [.line text] results := by
  refine ⟨.line text .nil, ?_⟩
  rw [readLines, parts_line text .nil, parts_nil, ← h]
  cases hread : read text <;> simp [readPart, hread]

/-- A line off which nothing is read. -/
theorem ReadsLines.skip {text : String} {rest : List Code} {results : List α}
    (h : ReadsLines read rest results) (hread : read text = none) :
    ReadsLines read (.line text :: rest) results :=
  (readsLines_line (congrArg Option.toList hread)).append h

theorem ReadsLines.blank {rest : List Code} {results : List α} (h : ReadsLines read rest results) :
    ReadsLines read (.blank :: rest) results := by
  refine ⟨.blank h.balanced, ?_⟩
  rw [readLines, parts_blank h.balanced, ← h.eq]
  rfl

/-- A text is read line by line. -/
theorem readsLines_text (text : String) :
    ReadsLines read [.lines text] ((Text.lines text).filterMap read) := by
  refine ⟨.lines text .nil, ?_⟩
  rw [readLines, parts_lines text .nil, parts_nil, List.append_nil, List.filterMap_map]
  rfl

/-- Of a declaration, only the header is read. -/
theorem readsLines_declared {header : String} {body : List Code} {results : List α}
    (hheader : ReadsLines read [.line header] results) (h : Balanced body) :
    ReadsLines read (declared header body) results := by
  refine ⟨balanced_declared h, ?_⟩
  rw [← hheader.eq, declared, readLines, parts_line header h.level, parts_level _ _ h, readLines,
    parts_line header .nil]
  rfl

theorem ReadsLines.flatMap {β : Type} {f : β → List Code} {results : β → List α} {bs : List β}
    (h : ∀ b ∈ bs, ReadsLines read (f b) (results b)) :
    ReadsLines read (bs.flatMap f) (bs.flatMap results) := by
  induction bs with
  | nil => exact readsLines_nil
  | cons b rest ih =>
    rw [List.forall_mem_cons] at h
    exact h.1.append (ih h.2)

theorem ReadsLines.spaced {β : Type} {f : β → List Code} {results : β → List α} {bs : List β}
    (h : ∀ b ∈ bs, ReadsLines read (f b) (results b)) :
    ReadsLines read (spaced (bs.map f)) (bs.flatMap results) := by
  rw [Managed.spaced, List.flatMap_map]
  exact .flatMap fun b hb => (h b hb).blank

end Reading

theorem spaced_append (a b : List (List Code)) : spaced (a ++ b) = spaced a ++ spaced b :=
  List.flatMap_append

end Boundary.Managed
