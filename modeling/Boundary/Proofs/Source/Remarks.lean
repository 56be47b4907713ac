import Boundary.Proofs.Source.Reading
import Boundary.Text.Blank
import Boundary.Text.Lines

/-!
# Remarks

Lines that say nothing to a compiler: blank lines and comments. A text that is quoted in a comment
leaves it at a line break, unless the rest of its lines are remarks themselves.

* `IsRemark`, `Commented`: remarks, and texts of remarks.
* `StaysComment`: the texts that may be quoted in a comment.
* `Quotes.commented_iff`: they may, and no others.
* `commented_render_iff`, `commented_render_lines_iff`: the lines of calls that open no level, and
  of a text that is written line by line.
-/

namespace Boundary.Source

open Text

/-! ## Texts of remarks -/

/-- A comment that goes on up to the end of `line`. -/
def IsComment (line : List Char) : Prop := ['/', '/'] <+: line

instance (line : List Char) : Decidable (IsComment line) :=
  inferInstanceAs (Decidable (['/', '/'] <+: line))

/-- A line that is blank or a comment. -/
def IsRemark (line : List Char) : Prop := (∀ c ∈ line, isBlank c = true) ∨ IsComment line

instance (line : List Char) : Decidable (IsRemark line) :=
  inferInstanceAs (Decidable ((∀ c ∈ line, isBlank c = true) ∨ _))

/-- All lines of `text` are blank or comments. Which characters end a line, `ends` says: this
differs from language to language. -/
def Commented (ends : Char → Bool) (text : String) : Prop :=
  ∀ line ∈ text.toList.splitOnP ends, IsRemark line

instance (ends : Char → Bool) (text : String) : Decidable (Commented ends text) :=
  inferInstanceAs (Decidable (∀ line ∈ text.toList.splitOnP ends, IsRemark line))

variable {ends : Char → Bool}

theorem isRemark_nil : IsRemark [] := .inl (by simp)

theorem IsComment.append {line : List Char} (h : IsComment line) (back : List Char) :
    IsComment (line ++ back) := h.trans (List.prefix_append ..)

theorem commented_empty : Commented ends "" := by
  simpa [Commented] using isRemark_nil

/-- The comment `line`, which has no end of a line in it. -/
theorem commented_ofList {line : List Char} (hcomment : IsComment line)
    (hone : ∀ c ∈ line, ends c = false) : Commented ends (String.ofList line) := by
  rw [Commented, String.toList_ofList, List.splitOnP_eq_singleton hone, List.forall_mem_singleton]
  exact .inr hcomment

/-- A line feed between `a` and `b` separates their lines. -/
theorem commented_feed (hfeed : ends '\n' = true) (a b : String) :
    Commented ends (a ++ "\n" ++ b) ↔ Commented ends a ∧ Commented ends b := by
  have htext : (a ++ "\n" ++ b).toList = a.toList ++ '\n' :: b.toList := by simp
  rw [Commented, htext, List.splitOnP_append_cons _ _ hfeed, List.forall_mem_append]
  rfl

/-- A finished line is followed by an empty one. -/
theorem commented_finish (hfeed : ends '\n' = true) (a : String) :
    Commented ends (a ++ "\n") ↔ Commented ends a := by
  have hparts := commented_feed hfeed a ""
  rwa [String.append_empty, and_iff_left commented_empty] at hparts

/-! ## Quoted texts -/

/-- Behind its first line break, every line of the text is a remark. The last one is a comment, as
something else may follow it. -/
structure StaysComment (ends : Char → Bool) (text : String) : Prop where
  finished : ∀ line ∈ (text.toList.splitOnP ends).tail.dropLast, IsRemark line
  last : ∀ line ∈ (text.toList.splitOnP ends).tail.getLast?, IsComment line

instance (ends : Char → Bool) (text : String) : Decidable (StaysComment ends text) :=
  decidable_of_iff ((∀ line ∈ (text.toList.splitOnP ends).tail.dropLast, IsRemark line) ∧
      ∀ line ∈ (text.toList.splitOnP ends).tail.getLast?, IsComment line)
    ⟨fun h => ⟨h.1, h.2⟩, fun h => ⟨h.finished, h.last⟩⟩

/-- A text without a character of `ends` may be quoted. -/
theorem StaysComment.of_notMem {text : String} (h : ∀ c ∈ text.toList, ends c = false) :
    StaysComment ends text := by
  have hone : text.toList.splitOnP ends = [text.toList] := List.splitOnP_eq_singleton h
  exact ⟨by simp [hone], by simp [hone]⟩

/-- A comment on one line quotes a text between `front` and `back`. -/
structure Quotes (ends : Char → Bool) (front back : String) : Prop where
  comment : IsComment front.toList
  front_one : ∀ c ∈ front.toList, ends c = false
  back_one : ∀ c ∈ back.toList, ends c = false
  /-- What follows the text is neither blank nor the beginning of a comment. -/
  back_head : ∃ c ∈ back.toList.head?, isBlank c = false ∧ c ≠ '/'

theorem Quotes.ofList {front rest : List Char} {c : Char} (hcomment : IsComment front)
    (hfront : ∀ d ∈ front, ends d = false) (hback : ∀ d ∈ c :: rest, ends d = false)
    (hhead : isBlank c = false ∧ c ≠ '/') :
    Quotes ends (String.ofList front) (String.ofList (c :: rest)) := by
  refine ⟨?_, ?_, ?_, ?_⟩
  · rwa [String.toList_ofList]
  · rwa [String.toList_ofList]
  · rwa [String.toList_ofList]
  · rw [String.toList_ofList]
    exact ⟨c, rfl, hhead⟩

/-- What follows an open line makes no remark of it that is not a comment already. -/
theorem Quotes.isRemark_append_iff {front back : String} (h : Quotes ends front back)
    (line : List Char) : IsRemark (line ++ back.toList) ↔ IsComment line := by
  obtain ⟨c, hc, hblank, hslash⟩ := h.back_head
  obtain ⟨rest, hback⟩ := List.head?_eq_some_iff.mp hc
  rw [hback]
  constructor
  · rintro (hall | hcomment)
    · have hc := hall c (by simp)
      rw [hblank] at hc
      cases hc
    · match line, hcomment with
      | [], hcomment =>
        obtain ⟨hc, -⟩ := List.cons_prefix_cons.mp hcomment
        exact absurd hc.symm hslash
      | [a], hcomment =>
        obtain ⟨-, hcomment⟩ := List.cons_prefix_cons.mp hcomment
        obtain ⟨hc, -⟩ := List.cons_prefix_cons.mp hcomment
        exact absurd hc.symm hslash
      | a :: b :: line, hcomment =>
        simpa [IsComment] using hcomment
  · exact fun hcomment => .inr (hcomment.append _)

/-- What precedes a text precedes its first line. -/
theorem splitOnP_append_of_notMem {front : List Char} (h : ∀ c ∈ front, ends c = false)
    (cs : List Char) :
    (front ++ cs).splitOnP ends = (cs.splitOnP ends).modifyHead (front ++ ·) := by
  induction front with
  | nil =>
    obtain ⟨first, rest, hparts⟩ := List.exists_cons_of_ne_nil (List.splitOnP_ne_nil ends cs)
    simp [hparts]
  | cons c front ih =>
    rw [List.forall_mem_cons] at h
    rw [List.cons_append, List.splitOnP_cons_eq_if_modifyHead, if_neg (by simp [h.1]), ih h.2,
      List.modifyHead_modifyHead]
    rfl

/-- Of the lines of a text that another text follows, all but the last are finished. -/
theorem Quotes.forall_isRemark_iff {front back : String} (h : Quotes ends front back)
    (cs : List Char) (line : List Char) (hline : ∀ c ∈ line, ends c = false) :
    (∀ l ∈ (line ++ cs ++ back.toList).splitOnP ends, IsRemark l) ↔
      (∀ l ∈ ((line ++ cs).splitOnP ends).dropLast, IsRemark l) ∧
        ∀ l ∈ ((line ++ cs).splitOnP ends).getLast?, IsComment l := by
  induction cs generalizing line with
  | nil =>
    have hone : (line ++ back.toList).splitOnP ends = [line ++ back.toList] :=
      List.splitOnP_eq_singleton (by
        rw [List.forall_mem_append]
        exact ⟨hline, h.back_one⟩)
    rw [List.append_nil, hone, List.splitOnP_eq_singleton hline]
    simpa using h.isRemark_append_iff line
  | cons c cs ih =>
    by_cases hc : ends c = true
    · have hrest := ih [] (by simp)
      have hne := List.splitOnP_ne_nil ends cs
      simp only [List.nil_append] at hrest
      rw [List.append_assoc, List.cons_append, List.splitOnP_append_cons _ _ hc,
        List.splitOnP_append_cons _ _ hc, List.splitOnP_eq_singleton hline, List.singleton_append,
        List.singleton_append, List.forall_mem_cons, hrest, List.dropLast_cons_of_ne_nil hne,
        List.forall_mem_cons, List.getLast?_cons_of_ne_nil hne, and_assoc]
    · -- The line that is under way goes on.
      have hmore := ih (line ++ [c]) (by
        rw [List.forall_mem_append, List.forall_mem_singleton]
        exact ⟨hline, by simpa using hc⟩)
      simpa using hmore

/-- **A text may be quoted between `front` and `back` exactly if it stays a comment behind each of
its line breaks.** -/
theorem Quotes.commented_iff {front back : String} (h : Quotes ends front back) (text : String) :
    Commented ends (front ++ text ++ back) ↔ StaysComment ends text := by
  have hlines := h.forall_isRemark_iff text.toList front.toList h.front_one
  rw [splitOnP_append_of_notMem h.front_one] at hlines
  rw [Commented, String.toList_append, String.toList_append, hlines]
  obtain ⟨first, rest, hparts⟩ :=
    List.exists_cons_of_ne_nil (List.splitOnP_ne_nil ends text.toList)
  have hfirst : IsComment (front.toList ++ first) := h.comment.append first
  have hstays : StaysComment ends text ↔
      (∀ l ∈ rest.dropLast, IsRemark l) ∧ ∀ l ∈ rest.getLast?, IsComment l := by
    constructor
    · rintro ⟨hfinished, hlast⟩
      rw [hparts] at hfinished hlast
      exact ⟨hfinished, hlast⟩
    · rintro ⟨hfinished, hlast⟩
      refine ⟨?_, ?_⟩
      · rwa [hparts]
      · rwa [hparts]
  rw [hstays, hparts, List.modifyHead_cons]
  cases rest with
  | nil => simpa using hfirst
  | cons second rest =>
    have hremark : IsRemark (front.toList ++ first) := .inr hfirst
    rw [List.dropLast_cons_of_ne_nil (by simp), List.forall_mem_cons, and_iff_right hremark,
      List.getLast?_cons_of_ne_nil (by simp)]

/-! ## Lines that are written -/

theorem Writer.Finished.commented_iff {w : Writer} (h : w.Finished) (hfeed : ends '\n' = true)
    (s : String) : Commented ends (w.text ++ s) ↔ Commented ends w.text ∧ Commented ends s := by
  obtain hempty | ⟨front, hfront⟩ := h
  · rw [hempty, String.empty_append, and_iff_right commented_empty]
  · rw [hfront, commented_feed hfeed, commented_finish hfeed]

theorem Writer.Finished.commented_line {w : Writer} (h : w.Finished) (hfeed : ends '\n' = true)
    (hdepth : w.depth = 0) (s : String) :
    Commented ends (w.line s).text ↔ Commented ends w.text ∧ Commented ends s := by
  rw [w.text_line s hdepth, commented_finish hfeed, h.commented_iff hfeed]

theorem Writer.commented_blank (hfeed : ends '\n' = true) (w : Writer) :
    Commented ends w.blank.text ↔ Commented ends w.text := by
  unfold Writer.blank
  split
  · exact commented_finish hfeed _
  · rfl

theorem Writer.Finished.commented_lines {w : Writer} (h : w.Finished) (hfeed : ends '\n' = true)
    (hdepth : w.depth = 0) (s : String) :
    Commented ends (w.lines s).text ↔
      Commented ends w.text ∧ ∀ line ∈ Text.lines s, Commented ends line := by
  unfold Writer.lines
  induction Text.lines s generalizing w with
  | nil => simp
  | cons line rest ih =>
    have hrest := ih (w.finished_line line) ((w.depth_line line).trans hdepth)
    rw [List.foldl_cons, hrest, h.commented_line hfeed hdepth, and_assoc, List.forall_mem_cons]

/-- A call that opens no level and closes none. -/
def Code.IsFlat : Code → Prop
  | .line _ | .lines _ | .blank => True
  | .open_ _ | .close _ => False

@[simp] theorem Code.isFlat_line (text : String) : (Code.line text).IsFlat := trivial

@[simp] theorem Code.isFlat_lines (text : String) : (Code.lines text).IsFlat := trivial

@[simp] theorem Code.isFlat_blank : Code.blank.IsFlat := trivial

theorem Code.IsFlat.commented_write (hfeed : ends '\n' = true) {c : Code} (h : c.IsFlat)
    {w : Writer} (hw : w.Finished) (hdepth : w.depth = 0) :
    (Code.write w c).depth = 0 ∧ (Commented ends (Code.write w c).text ↔
      Commented ends w.text ∧ ∀ text ∈ c.texts, Commented ends text) := by
  cases c with
  | line text =>
    refine ⟨(w.depth_line text).trans hdepth, (hw.commented_line hfeed hdepth text).trans ?_⟩
    rw [Code.texts, List.forall_mem_singleton]
  | lines text => exact ⟨(w.depth_lines text).trans hdepth, hw.commented_lines hfeed hdepth text⟩
  | blank =>
    refine ⟨w.depth_blank.trans hdepth, (Writer.commented_blank hfeed w).trans ?_⟩
    simp [Code.texts]
  | open_ header => exact h.elim
  | close footer => exact h.elim

private theorem commented_writeAll_iff (hfeed : ends '\n' = true) {code : List Code}
    (hflat : ∀ c ∈ code, c.IsFlat) {w : Writer} (hw : w.Finished) (hdepth : w.depth = 0) :
    Commented ends (Code.writeAll w code).text ↔
      Commented ends w.text ∧ ∀ text ∈ Code.textsAll code, Commented ends text := by
  induction code generalizing w with
  | nil => simp [Code.writeAll, Code.textsAll]
  | cons c rest ih =>
    rw [List.forall_mem_cons] at hflat
    obtain ⟨hlevel, hfirst⟩ := hflat.1.commented_write hfeed hw hdepth
    have hrest := ih hflat.2 (Code.finished_write hw c) hlevel
    rw [Code.textsAll, List.forall_mem_append, ← and_assoc, ← hfirst, ← hrest]
    rfl

/-- The lines of calls that open no level are the lines of their text. -/
theorem commented_render_iff (hfeed : ends '\n' = true) {code : List Code}
    (hflat : ∀ c ∈ code, c.IsFlat) :
    Commented ends (Code.render code) ↔ ∀ text ∈ Code.textsAll code, Commented ends text := by
  rw [Code.render, commented_writeAll_iff hfeed hflat (.inl rfl) rfl]
  exact and_iff_right commented_empty

/-! ### Texts that are cut into lines -/

/-- A carriage return at the end of a line is blank. -/
theorem isRemark_dropReturn_iff (line : List Char) :
    IsRemark (dropReturn line) ↔ IsRemark line := by
  unfold dropReturn
  split
  · rename_i hreturn
    obtain ⟨front, rfl⟩ := List.getLast?_eq_some_iff.mp hreturn
    have hblank : isBlank '\r' = true := by decide
    have hcomment : IsComment (front ++ ['\r']) ↔ IsComment front := by
      rw [IsComment, List.prefix_concat_iff, or_iff_right]
      · rfl
      · intro heq
        have hlast := congrArg List.getLast? heq
        simp at hlast
    rw [IsRemark, IsRemark, hcomment, List.dropLast_concat]
    simp [hblank, or_imp, forall_and]
  · rfl

private theorem notMem_dropReturn {line : List Char} {c : Char} (h : c ∉ line) :
    c ∉ dropReturn line := by
  unfold dropReturn
  split
  · exact fun hc => h ((List.dropLast_sublist line).mem hc)
  · exact h

/-- Whether the character is a line feed. -/
def isFeed (c : Char) : Bool := c = '\n'

theorem isFeed_eq_false_iff {c : Char} : isFeed c = false ↔ c ≠ '\n' := by simp [isFeed]

private theorem forall_isFeed_eq_false_iff {cs : List Char} :
    (∀ c ∈ cs, isFeed c = false) ↔ '\n' ∉ cs := by
  simp only [isFeed_eq_false_iff]
  exact ⟨fun h hmem => h _ hmem rfl, fun h c hc heq => h (heq ▸ hc)⟩

private theorem forall_linesFrom_iff {under : List Char} (hunder : '\n' ∉ under) (cs : List Char) :
    (∀ line ∈ linesFrom under cs, Commented isFeed (String.ofList line)) ↔
      ∀ line ∈ (under.reverse ++ cs).splitOnP isFeed, IsRemark line := by
  fun_induction linesFrom under cs with
  | case1 under hempty => simp_all [isRemark_nil]
  | case2 under hempty => simp [Commented]
  | case3 under rest ih =>
    have hline : '\n' ∉ under.reverse := by simpa using hunder
    have hdropped := forall_isFeed_eq_false_iff.mpr (notMem_dropReturn hline)
    rw [List.forall_mem_cons, ih (by simp), List.splitOnP_append_cons _ _ rfl,
      List.splitOnP_eq_singleton (forall_isFeed_eq_false_iff.mpr hline), List.singleton_append,
      List.forall_mem_cons, Commented, String.toList_ofList, List.splitOnP_eq_singleton hdropped,
      List.forall_mem_singleton, isRemark_dropReturn_iff]
    rfl
  | case4 under c rest hc ih =>
    rw [ih (by simp [hunder, Ne.symm hc]), List.reverse_cons, List.append_assoc]
    rfl

/-- Cut into lines, a text has the same remarks. -/
theorem commented_lines_iff (text : String) :
    (∀ line ∈ lines text, Commented isFeed line) ↔ Commented isFeed text := by
  rw [lines, List.forall_mem_map, forall_linesFrom_iff (by simp)]
  rfl

/-- A text is written line by line. -/
theorem commented_render_lines_iff (text : String) :
    Commented isFeed (Code.render [.lines text, .blank]) ↔ Commented isFeed text := by
  have htexts : Code.textsAll [.lines text, .blank] = lines text := by
    simp [Code.textsAll, Code.texts]
  rw [commented_render_iff rfl (by simp), htexts, commented_lines_iff]

end Boundary.Source
