import Mathlib.Data.List.Forall2
import Boundary.Proofs.Managed.Levels
import Boundary.Proofs.Managed.Marks
import Boundary.Proofs.Managed.SupportText

/-!
# Support code calls one native function

The types that every managed file brings along call nothing but the function that releases bytes,
and that from one place.

* `reads_declared`, `reads_spaced`: the ways to put managed code together.
* `reads_enclosed`, `reads_separated`: the ways to put lines together.
* `callOf`: a call of an imported function as it is read.
* `reads_supportTypes`, `reads_ffi`, `reads_supportText`: the types and the whole.
-/

namespace Boundary.Managed

open Source Text

/-! ## Putting code together -/

@[simp] theorem textsAll_lines (texts : List String) : Code.textsAll (lines texts) = texts :=
  Code.textsAll_map_line texts

@[simp] theorem textsAll_declared (header : String) (body : List Code) :
    Code.textsAll (declared header body) =
      header :: "\x7b" :: Code.textsAll body ++ ["\x7d"] := by
  simp [declared, level, Code.textsAll_append, Code.textsAll, Code.texts]

section Code

variable {α : Type} {read : String → Option α}

/-- Nothing is read off the braces around a body. -/
def SkipsBraces (read : String → Option α) : Prop :=
  Unread read "\x7b" ∧ Unread read "\x7d" ∧ Unread read "\x7d;"

theorem reads_declared (hbraces : SkipsBraces read) {header : String} {body : List Code}
    {results : List α} (hheader : Reads read [.line header] []) (hbody : Reads read body results) :
    Reads read (declared header body) results :=
  hheader.append (hbraces.1.level hbody hbraces.2.1)

theorem reads_lines {texts : List String} (h : ∀ text ∈ texts, Unread read text) :
    Reads read (lines texts) [] := by
  refine reads_nothing fun code hcode => ?_
  obtain ⟨text, htext, rfl⟩ := List.mem_map.mp hcode
  exact (h text htext).line

theorem reads_spaced {parts : List (List Code)} {results : List (List α)}
    (h : List.Forall₂ (Reads read) parts results) : Reads read (spaced parts) results.flatten := by
  induction h with
  | nil => exact reads_nil
  | cons hfirst _ ih => exact hfirst.blank.append ih

theorem reads_interspaced {parts : List (List Code)} {results : List (List α)}
    (h : List.Forall₂ (Reads read) parts results) :
    Reads read (interspaced parts) results.flatten := by
  cases h with
  | nil => exact reads_nil
  | cons hfirst hrest => exact hfirst.append (reads_spaced hrest)

/-! ### Lines -/

theorem reads_lines_append {a b : List String} {results results' : List α}
    (ha : Reads read (lines a) results) (hb : Reads read (lines b) results') :
    Reads read (lines (a ++ b)) (results ++ results') := by
  rw [lines, List.map_append]
  exact ha.append hb

/-- Lines off which nothing is read, before others. -/
theorem reads_lines_after {a b : List String} {results : List α} (ha : Reads read (lines a) [])
    (hb : Reads read (lines b) results) : Reads read (lines (a ++ b)) results :=
  reads_lines_append ha hb

theorem reads_lines_cons {text : String} {rest : List String} {results : List α}
    (h : Unread read text) (hrest : Reads read (lines rest) results) :
    Reads read (lines (text :: rest)) results := h.cons hrest

theorem reads_lines_empty (hempty : read "" = none) {rest : List String} {results : List α}
    (h : Reads read (lines rest) results) : Reads read (lines ("" :: rest)) results :=
  h.empty_line hempty

/-- Indentation does not count. -/
theorem reads_indented {texts : List String} {results : List α}
    (h : Reads read (lines texts) results) : Reads read (lines (indented texts)) results := by
  have hblank : ∀ c ∈ "    ".toList, c = ' ' := by decide
  refine ⟨?_, ?_⟩
  · have hone := h.oneLine
    rw [textsAll_lines] at hone ⊢
    refine forall_mem_indented (.ofList (by decide)) (fun text htext => ?_) hone
    exact (OneLine.ofList (by decide)).append htext
  · have heq := h.eq
    rw [textsAll_lines] at heq ⊢
    rw [indented, List.filterMap_map, ← heq]
    refine List.filterMap_congr fun text _ => ?_
    rw [Function.comp_apply]
    split
    · rename_i hempty
      obtain rfl : text = "" := by simpa using hempty
      rfl
    · rw [trimStart_append hblank]

theorem reads_enclosed (hbraces : SkipsBraces read) {header : String} {body : List String}
    {results : List α} (hheader : Reads read [.line header] [])
    (hbody : Reads read (lines body) results) :
    Reads read (lines (enclosed header body)) results := by
  have hclose : Reads read (lines ["\x7d"]) [] := hbraces.2.1.line
  have hinside := reads_lines_append (reads_indented hbody) hclose
  rw [List.append_nil] at hinside
  exact hheader.append (reads_lines_cons hbraces.1 hinside)

private theorem reads_switched (hbraces : SkipsBraces read) {header : String} {arms : List String}
    {results : List α} (hheader : Unread read header) (harms : Reads read (lines arms) results) :
    Reads read (lines (switched header arms)) results := by
  have hclose : Reads read (lines ["\x7d;"]) [] := hbraces.2.2.line
  have hinside := reads_lines_append (reads_indented harms) hclose
  rw [List.append_nil] at hinside
  exact reads_lines_cons hheader (reads_lines_cons hbraces.1 hinside)

theorem reads_separated (hempty : read "" = none) {parts : List (List String)}
    {results : List (List α)}
    (h : List.Forall₂ (fun texts => Reads read (lines texts)) parts results) :
    Reads read (lines (separated parts)) results.flatten := by
  induction h with
  | nil => exact reads_nil
  | @cons texts result rest results hfirst hrest ih =>
    cases hrest with
    | nil => simpa [separated] using hfirst
    | cons _ _ => exact reads_lines_append hfirst (reads_lines_empty hempty ih)

end Code

theorem skipsBraces_markOf? : SkipsBraces markOf? :=
  ⟨unread_ofList (by decide) (by decide), unread_ofList (by decide) (by decide),
    unread_ofList (by decide) (by decide)⟩

/-- Words that introduce a block. -/
theorem reads_keyword : ∀ word ∈ ["get", "try", "finally"], Reads markOf? [.line word] [] := by
  have hwords : ∀ word ∈ ["get", "try", "finally"],
      OneLine word ∧ markOf? (trimStart word) = none := by decide +kernel
  exact fun word hword => reads_skipped (hwords word hword).1 (hwords word hword).2

/-! ## The types -/

/-- Nothing is read off types of the support code but the last: every line has a beginning that is
quiet. -/
theorem reads_supportTypes (bufferFree : String) :
    ∀ t ∈ (supportTypes bufferFree).dropLast, Reads markOf? (lines t.lines) [] := by
  simp only [supportTypes, List.dropLast_cons_cons, List.dropLast_singleton, List.forall_mem_cons,
    List.not_mem_nil, false_imp_iff, implies_true, and_true]
  refine ⟨?_, ?_, ?_, ?_, ?_, ?_, ?_, ?_, ?_, ?_, ?_⟩
  all_goals
    repeat' first
    | exact reads_nil
    | exact skipsBraces_markOf?
    | refine reads_enclosed skipsBraces_markOf? ?_ ?_
    | refine reads_switched skipsBraces_markOf? ?_ ?_
    | refine reads_lines_after ?_ ?_
    | exact unread_ofList (by decide) (by decide)
    | exact (unread_ofList (by decide) (by decide)).append (.ofList (by decide))
    | exact reads_keyword _ (by decide)
    | refine reads_lines_empty markOf?_empty ?_
    | refine reads_lines_cons ?_ ?_
    | apply Unread.line

/-- A call of an imported function as it is read: the status is the last argument. -/
def callOf (name : String) (args : List String) (status : String) : Mark :=
  .call ⟨name, (args ++ [status]).map trimStart, [';']⟩

/-- Bytes are released in one place. -/
theorem reads_ffi {bufferFree : String} (h : Naming.IsWord bufferFree) :
    Reads markOf? (lines (ffi bufferFree)) [callOf bufferFree ["buffer"] "ref status"] := by
  have hargs : ∀ a ∈ ["buffer", "ref status"], Closed a := by
    simpa using ⟨Closed.ofList (by decide), Closed.ofList (by decide)⟩
  have hread : markOf? (trimStart ("NativeMethods." ++ bufferFree ++ "(buffer, ref status);")) =
      some (callOf bufferFree ["buffer"] "ref status") := by
    have hcommas : "(buffer, ref status);" =
        "(" ++ commas ["buffer", "ref status"] ++ ")" ++ ";" := rfl
    have hline : "NativeMethods." ++ bufferFree ++ "(buffer, ref status);" =
        "" ++ callText bufferFree ["buffer", "ref status"] ++ ";" := by
      rw [hcommas, String.empty_append]
      show _ =
        "NativeMethods." ++ bufferFree ++ "(" ++ commas ["buffer", "ref status"] ++ ")" ++ ";"
      simp only [String.append_assoc]
    rw [hline]
    exact markOf?_callText .nothing h (by simp) hargs ";"
  have hcall : Reads markOf? (lines ["NativeMethods." ++ bufferFree ++ "(buffer, ref status);"])
      [callOf bufferFree ["buffer"] "ref status"] :=
    reads_line (((OneLine.ofList (by decide)).append (oneLine_of_isWord h)).append
      (.ofList (by decide))) hread
  have hfinally : Reads markOf? (lines (enclosed "finally" ["var status = default(CallStatus);",
      "NativeMethods." ++ bufferFree ++ "(buffer, ref status);"]))
      [callOf bufferFree ["buffer"] "ref status"] :=
    reads_enclosed skipsBraces_markOf? (reads_keyword _ (by decide))
      (reads_lines_cons (unread_ofList (by decide) (by decide)) hcall)
  -- The call stands in the last but one of the members.
  refine reads_enclosed skipsBraces_markOf? (unread_ofList (by decide) (by decide)).line
    (@reads_lines_append _ _ _ _ _ [] (reads_lines_after ?_
      (reads_enclosed skipsBraces_markOf? (unread_ofList (by decide) (by decide)).line
        (reads_lines_after ?_ hfinally))) ?_)
  all_goals
    repeat' first
    | exact reads_nil
    | exact skipsBraces_markOf?
    | refine reads_enclosed skipsBraces_markOf? ?_ ?_
    | refine reads_lines_after ?_ ?_
    | exact unread_ofList (by decide) (by decide)
    | exact (unread_ofList (by decide) (by decide)).append (.ofList (by decide))
    | exact reads_keyword _ (by decide)
    | refine reads_lines_empty markOf?_empty ?_
    | refine reads_lines_cons ?_ ?_
    | apply Unread.line

/-- **Support code calls the function that releases bytes, and no other.** -/
theorem reads_supportText {bufferFree : String} (h : Naming.IsWord bufferFree) :
    Reads markOf? [.lines (supportText bufferFree)]
      [callOf bufferFree ["buffer"] "ref status"] := by
  have hlines : (supportTypes bufferFree).map (·.lines) =
      (supportTypes bufferFree).dropLast.map (·.lines) ++ [ffi bufferFree] := rfl
  have hothers : List.Forall₂ (fun texts => Reads markOf? (lines texts))
      ((supportTypes bufferFree).dropLast.map (·.lines))
      ((supportTypes bufferFree).dropLast.map fun _ => []) := by
    rw [List.forall₂_map_left_iff, List.forall₂_map_right_iff, List.forall₂_same]
    exact reads_supportTypes bufferFree
  have hall := reads_separated markOf?_empty (List.rel_append hothers (.cons (reads_ffi h) .nil))
  refine Reads.lines ?_
  rw [lines_supportText (isLine_of_isWord h), supportLines, hlines]
  show Reads markOf? (lines _) _
  simpa using hall

end Boundary.Managed
