import Boundary.Proofs.Source.Balance
import Boundary.Proofs.Text.Lines

/-!
# Reading source text

What is read off a source text, line by line and without regard to indentation, and how it follows
from the calls that have written the text.

* `linesRead`: what is read off the lines of a text.
* `Code.texts`, `Code.textsAll`: the lines that calls write.
* `Reads`: what is read off the lines of calls; `Unread`: what a line starts with that nothing is
  read off.
* `Reads.linesRead_render`: the same is read off the text that they leave.
* `Code.render_line`: a line in that text.
* `mem_linesRead_of_mem_split`: a line that is not one is read line by line.
-/

namespace Boundary

namespace Source

open Text

/-! ## Reading a text -/

section Reading

variable {α : Type} (read : String → Option α)

/-- What `read` reads off the lines of `text`. Indentation does not count. -/
def linesRead (text : String) : List α :=
  (split '\n' text).filterMap fun line => read (trimStart line)

/-- The lines that a `Code` writes. -/
def Code.texts : Code → List String
  | .line text | .open_ text | .close text => [text]
  | .lines text => Text.lines text
  | .blank => []

/-- The lines that a list of `Code` writes. -/
def Code.textsAll : List Code → List String
  | [] => []
  | c :: rest => c.texts ++ Code.textsAll rest

theorem Code.textsAll_append (a b : List Code) :
    Code.textsAll (a ++ b) = Code.textsAll a ++ Code.textsAll b := by
  induction a with
  | nil => rfl
  | cons c rest ih => simp [Code.textsAll, ih]

theorem Code.textsAll_map_line (texts : List String) :
    Code.textsAll (texts.map Code.line) = texts := by
  induction texts with
  | nil => rfl
  | cons text rest ih => exact congrArg (text :: ·) ih

/-- `read` reads these `results` off the lines of the calls `code`, each of which is one line. -/
structure Reads (code : List Code) (results : List α) : Prop where
  oneLine : ∀ text ∈ Code.textsAll code, OneLine text
  eq : (Code.textsAll code).filterMap (fun text => read (trimStart text)) = results

/-- Nothing is read off a line that starts with `front`. -/
structure Unread (front : String) : Prop where
  oneLine : OneLine front
  eq_none : ∀ back, read (trimStart (front ++ back)) = none

variable {read}

theorem Unread.append {front back : String} (h : Unread read front) (hback : OneLine back) :
    Unread read (front ++ back) :=
  ⟨h.oneLine.append hback, fun rest => by rw [String.append_assoc]; exact h.eq_none _⟩

/-! ### Putting code together -/

theorem reads_nil : Reads read [] [] := ⟨by simp [Code.textsAll], rfl⟩

theorem Reads.append {a b : List Code} {results results' : List α} (ha : Reads read a results)
    (hb : Reads read b results') : Reads read (a ++ b) (results ++ results') := by
  refine ⟨?_, ?_⟩
  · intro text htext
    rw [Code.textsAll_append, List.mem_append] at htext
    exact htext.elim (ha.oneLine text) (hb.oneLine text)
  · rw [Code.textsAll_append, List.filterMap_append, ha.eq, hb.eq]

theorem Reads.behind {a b : List Code} {results : List α} (ha : Reads read a [])
    (hb : Reads read b results) : Reads read (a ++ b) results := ha.append hb

theorem Reads.before {a b : List Code} {results : List α} (ha : Reads read a results)
    (hb : Reads read b []) : Reads read (a ++ b) results := by
  simpa using ha.append hb

theorem Reads.flatMap {β : Type} {f : β → List Code} {results : β → List α} {bs : List β}
    (h : ∀ b ∈ bs, Reads read (f b) (results b)) :
    Reads read (bs.flatMap f) (bs.flatMap results) := by
  induction bs with
  | nil => exact reads_nil
  | cons b rest ih => exact (h b (by simp)).append (ih fun c hc => h c (by simp [hc]))

/-- Code off whose parts nothing is read. -/
theorem reads_nothing {code : List Code} (h : ∀ c ∈ code, Reads read [c] []) :
    Reads read code [] := by
  induction code with
  | nil => exact reads_nil
  | cons c rest ih => exact (h c (by simp)).append (ih fun d hd => h d (by simp [hd]))

theorem reads_flatMap_nothing {β : Type} {f : β → List Code} {bs : List β}
    (h : ∀ b ∈ bs, Reads read (f b) []) : Reads read (bs.flatMap f) [] := by
  have hnone : bs.flatMap (fun _ => ([] : List α)) = [] := by simp
  exact hnone ▸ Reads.flatMap h

theorem Reads.blank {code : List Code} {results : List α} (h : Reads read code results) :
    Reads read (.blank :: code) results := ⟨h.oneLine, h.eq⟩

theorem reads_line {text : String} {result : α} (htext : OneLine text)
    (hread : read (trimStart text) = some result) : Reads read [.line text] [result] := by
  refine ⟨?_, ?_⟩
  · simpa [Code.textsAll, Code.texts] using htext
  · simp [Code.textsAll, Code.texts, hread]

theorem reads_skipped {text : String} (htext : OneLine text)
    (hread : read (trimStart text) = none) : Reads read [.line text] [] := by
  refine ⟨?_, ?_⟩
  · simpa [Code.textsAll, Code.texts] using htext
  · simp [Code.textsAll, Code.texts, hread]

theorem Unread.line {text : String} (h : Unread read text) : Reads read [.line text] [] :=
  reads_skipped h.oneLine (by simpa using h.eq_none "")

theorem Reads.level {header footer : String} {body : List Code} {front results : List α}
    (hheader : Reads read [.line header] front) (hbody : Reads read body results)
    (hfooter : Unread read footer) :
    Reads read (level header footer body) (front ++ results) := by
  have hlines : Code.textsAll (.open_ header :: body ++ [.close footer]) =
      Code.textsAll ([.line header] ++ body ++ [.line footer]) := by
    simp [Code.textsAll_append, Code.textsAll, Code.texts]
  have hreads := (hheader.append hbody).append hfooter.line
  rw [List.append_nil] at hreads
  exact ⟨hlines ▸ hreads.oneLine, hlines ▸ hreads.eq⟩

/-- What is read off the lines of a text one by one is read off the text. -/
theorem Reads.lines {text : String} {results : List α}
    (h : Reads read ((Text.lines text).map Code.line) results) :
    Reads read [.lines text] results := by
  have htexts : Code.textsAll [.lines text] =
      Code.textsAll ((Text.lines text).map Code.line) := by
    rw [Code.textsAll_map_line]
    exact List.append_nil _
  exact ⟨htexts ▸ h.oneLine, htexts ▸ h.eq⟩

theorem Reads.empty_line (hempty : read "" = none) {code : List Code} {results : List α}
    (h : Reads read code results) : Reads read (.line "" :: code) results :=
  (reads_skipped (by decide) hempty).append h

theorem Unread.cons {text : String} {rest : List Code} {results : List α} (h : Unread read text)
    (hrest : Reads read rest results) : Reads read (.line text :: rest) results :=
  h.line.append hrest

theorem Unread.level {header footer : String} {body : List Code} {results : List α}
    (h : Unread read header) (hbody : Reads read body results) (hfooter : Unread read footer) :
    Reads read (level header footer body) results := h.line.level hbody hfooter

/-! ### The text that calls leave -/

/-- The writer `w` indents by blanks and stands at the beginning of a line. -/
structure Writer.Sound (w : Writer) : Prop where
  unit_blank : ∀ c ∈ w.unit.toList, c = ' '
  text_finished : w.text = "" ∨ ∃ front, w.text = front ++ "\n"

theorem Writer.Sound.indentation_blank {w : Writer} (h : w.Sound) :
    ∀ c ∈ w.indentation.toList, c = ' ' := by
  intro c hc
  rw [Writer.indentation, String.toList_join, List.mem_flatMap] at hc
  obtain ⟨s, hs, hc⟩ := hc
  exact h.unit_blank c (List.eq_of_mem_replicate hs ▸ hc)

theorem linesRead_finish (hempty : read "" = none) {text line : String}
    (htext : text = "" ∨ ∃ front, text = front ++ "\n") (hline : OneLine line) :
    linesRead read (text ++ line ++ "\n") =
      linesRead read text ++ (read (trimStart line)).toList := by
  have hnone : read (trimStart "") = none := hempty
  have hlast : split '\n' (line ++ "\n") = [line, ""] := by
    have hparts := split_feed line ""
    rwa [String.append_empty, split_of_notMem hline, split_empty]
      at hparts
  obtain rfl | ⟨front, rfl⟩ := htext
  · rw [String.empty_append, linesRead, linesRead, hlast, split_of_notMem (by decide)]
    cases hread : read (trimStart line) <;> simp [hread, hnone]
  · have hfront : linesRead read (front ++ "\n") = linesRead read front := by
      have hparts := split_feed front ""
      rw [String.append_empty, split_empty] at hparts
      simp [linesRead, hparts, hnone]
    rw [hfront, linesRead, String.append_assoc, split_separated rfl, hlast]
    cases hread : read (trimStart line) <;> simp [linesRead, hread, hnone]

/-- A line that is written is read without its indentation. -/
theorem Writer.Sound.linesRead_line (hempty : read "" = none) {w : Writer} (h : w.Sound)
    {s : String} (hs : OneLine s) :
    (w.line s).Sound ∧
      linesRead read (w.line s).text = linesRead read w.text ++ (read (trimStart s)).toList := by
  unfold Writer.line
  split
  · rename_i hnothing
    obtain rfl : s = "" := by simpa using hnothing
    have hread := linesRead_finish hempty h.text_finished hs
    rw [String.append_empty] at hread
    exact ⟨⟨h.unit_blank, .inr ⟨_, rfl⟩⟩, hread⟩
  · have hindented : OneLine (w.indentation ++ s) := by
      refine .append ?_ hs
      intro hmem
      exact absurd (h.indentation_blank _ hmem) (by decide)
    have hread := linesRead_finish hempty h.text_finished hindented
    rw [trimStart_append h.indentation_blank, String.append_assoc] at hread
    exact ⟨⟨h.unit_blank, .inr ⟨_, (String.append_assoc ..).symm⟩⟩, hread⟩

theorem Writer.Sound.linesRead_blank (hempty : read "" = none) {w : Writer} (h : w.Sound) :
    w.blank.Sound ∧ linesRead read w.blank.text = linesRead read w.text := by
  unfold Writer.blank
  split
  · have hblank : OneLine "" := by decide
    have hread := linesRead_finish hempty h.text_finished hblank
    have hnone : read (trimStart "") = none := hempty
    rw [String.append_empty, hnone, Option.toList_none, List.append_nil] at hread
    exact ⟨⟨h.unit_blank, .inr ⟨_, rfl⟩⟩, hread⟩
  · exact ⟨h, rfl⟩

theorem Writer.Sound.atDepth {w : Writer} (h : w.Sound) (depth : Nat) :
    ({ w with depth := depth } : Writer).Sound := ⟨h.unit_blank, h.text_finished⟩

theorem Writer.Sound.linesRead_lines (hempty : read "" = none) {w : Writer} (h : w.Sound)
    {s : String} (hs : ∀ line ∈ Text.lines s, OneLine line) :
    (w.lines s).Sound ∧ linesRead read (w.lines s).text =
      linesRead read w.text ++ (Text.lines s).filterMap fun line => read (trimStart line) := by
  unfold Writer.lines
  generalize Text.lines s = texts at hs ⊢
  induction texts generalizing w with
  | nil => exact ⟨h, (List.append_nil _).symm⟩
  | cons line rest ih =>
    rw [List.forall_mem_cons] at hs
    obtain ⟨hfirst, hline⟩ := h.linesRead_line hempty hs.1
    obtain ⟨hall, hrest⟩ := ih hfirst hs.2
    refine ⟨hall, hrest.trans ?_⟩
    rw [hline, List.append_assoc]
    cases hresult : read (trimStart line) <;> simp [hresult]

/-- What a call writes is read after what has been written before. -/
theorem Code.linesRead_write (hempty : read "" = none) {w : Writer} (h : w.Sound) (c : Code)
    (hone : ∀ text ∈ c.texts, OneLine text) :
    (Code.write w c).Sound ∧ linesRead read (Code.write w c).text =
      linesRead read w.text ++ c.texts.filterMap fun text => read (trimStart text) := by
  have hsingle (text : String) : [text].filterMap (fun text => read (trimStart text)) =
      (read (trimStart text)).toList := by
    cases hresult : read (trimStart text) <;> simp [hresult]
  cases c with
  | line text =>
    rw [Code.texts, hsingle]
    exact h.linesRead_line hempty (hone text (by simp [Code.texts]))
  | lines text => exact h.linesRead_lines hempty hone
  | blank =>
    rw [Code.texts, List.filterMap_nil, List.append_nil]
    exact h.linesRead_blank hempty
  | open_ header =>
    obtain ⟨hsound, hread⟩ := h.linesRead_line hempty (hone header (by simp [Code.texts]))
    rw [Code.texts, hsingle]
    exact ⟨hsound.atDepth _, hread⟩
  | close footer =>
    rw [Code.texts, hsingle]
    exact (h.atDepth _).linesRead_line hempty (hone footer (by simp [Code.texts]))

theorem Code.linesRead_writeAll (hempty : read "" = none) {w : Writer} (h : w.Sound)
    (code : List Code) (hone : ∀ text ∈ Code.textsAll code, OneLine text) :
    (Code.writeAll w code).Sound ∧ linesRead read (Code.writeAll w code).text =
      linesRead read w.text ++
        (Code.textsAll code).filterMap fun text => read (trimStart text) := by
  induction code generalizing w with
  | nil => exact ⟨h, by simp [Code.writeAll, Code.textsAll]⟩
  | cons c rest ih =>
    obtain ⟨hfirst, hc⟩ := Code.linesRead_write hempty h c
      fun text htext => hone text (by simp [Code.textsAll, htext])
    obtain ⟨hall, hrest⟩ := ih hfirst fun text htext => hone text (by simp [Code.textsAll, htext])
    refine ⟨hall, hrest.trans ?_⟩
    rw [hc, Code.textsAll, List.filterMap_append, List.append_assoc]

/-- **What `Reads` says of the lines of calls is read off their text.** -/
theorem Reads.linesRead_render (hempty : read "" = none) {code : List Code} {results : List α}
    (h : Reads read code results) : linesRead read (Code.render code) = results := by
  have hnew : Writer.fresh.Sound := ⟨by decide, .inl rfl⟩
  have hnone : read (trimStart "") = none := hempty
  have hnothing : linesRead read Writer.fresh.text = [] := by
    simp [linesRead, Writer.fresh, split_empty, hnone]
  rw [Code.render, (Code.linesRead_writeAll hempty hnew code h.oneLine).2, h.eq, hnothing,
    List.nil_append]

/-! ### Lines inside lines -/

theorem Code.writeAll_append (w : Writer) (a b : List Code) :
    Code.writeAll w (a ++ b) = Code.writeAll (Code.writeAll w a) b := by
  induction a generalizing w with
  | nil => rfl
  | cons c rest ih => exact ih _

/-- The lines of a text are written one by one. -/
theorem Code.writeAll_lines (w : Writer) (text : String) (rest : List Code) :
    Code.writeAll w (.lines text :: rest) =
      Code.writeAll w ((Text.lines text).map Code.line ++ rest) := by
  rw [Code.writeAll_append, Code.writeAll, Code.writeAll, Code.writeAll, List.foldl_cons,
    List.foldl_map]
  rfl

theorem Writer.text_line (w : Writer) (s : String) (hdepth : w.depth = 0) :
    (w.line s).text = w.text ++ s ++ "\n" := by
  unfold Writer.line
  split
  · rename_i hempty
    obtain rfl : s = "" := by simpa using hempty
    rw [String.append_empty]
  · simp [Writer.indentation, hdepth, ← String.append_assoc]

theorem Writer.text_line_prefix (w : Writer) (s : String) :
    w.text.toList <+: (w.line s).text.toList := by
  unfold Writer.line
  split <;> simp

/-- The text of the writer `w` ends with a line, or is empty. -/
def Writer.Finished (w : Writer) : Prop := w.text = "" ∨ ∃ front, w.text = front ++ "\n"

theorem Writer.finished_line (w : Writer) (s : String) : (w.line s).Finished := by
  unfold Writer.line
  split
  · exact .inr ⟨_, rfl⟩
  · exact .inr ⟨_, (String.append_assoc ..).symm⟩

theorem Writer.finished_lines {w : Writer} (h : w.Finished) (s : String) :
    (w.lines s).Finished := by
  unfold Writer.lines
  induction Text.lines s generalizing w with
  | nil => exact h
  | cons line rest ih => exact ih (w.finished_line line)

theorem Code.finished_write {w : Writer} (h : w.Finished) (c : Code) :
    (Code.write w c).Finished := by
  cases c with
  | line text => exact w.finished_line text
  | lines text => exact Writer.finished_lines h text
  | blank =>
    show w.blank.Finished
    unfold Writer.blank
    split
    · exact .inr ⟨_, rfl⟩
    · exact h
  | open_ header => exact w.finished_line header
  | close footer => exact Writer.finished_line _ footer

theorem Code.finished_writeAll {w : Writer} (h : w.Finished) (code : List Code) :
    (Code.writeAll w code).Finished := by
  induction code generalizing w with
  | nil => exact h
  | cons c rest ih => exact ih (Code.finished_write h c)

theorem Writer.text_lines_prefix (w : Writer) (s : String) :
    w.text.toList <+: (w.lines s).text.toList := by
  unfold Writer.lines
  induction Text.lines s generalizing w with
  | nil => exact List.prefix_refl _
  | cons line rest ih => exact (w.text_line_prefix line).trans (ih _)

/-- What has been written stays at the beginning of the text. -/
theorem Code.text_write_prefix (w : Writer) (c : Code) :
    w.text.toList <+: (Code.write w c).text.toList := by
  cases c with
  | line text => exact w.text_line_prefix text
  | lines text => exact w.text_lines_prefix text
  | blank =>
    show _ <+: w.blank.text.toList
    unfold Writer.blank
    split <;> simp
  | open_ header => exact w.text_line_prefix header
  | close footer => exact Writer.text_line_prefix { w with depth := w.depth - 1 } footer

theorem Code.text_writeAll_prefix (w : Writer) (code : List Code) :
    w.text.toList <+: (Code.writeAll w code).text.toList := by
  induction code generalizing w with
  | nil => exact List.prefix_refl _
  | cons c rest ih => exact (Code.text_write_prefix w c).trans (ih _)

/-- A line behind calls that are `Balanced` is written behind their text. -/
theorem Code.render_line {before : List Code} (h : Balanced before) (after : List Code)
    (s : String) :
    ∃ rest, Code.render (before ++ .line s :: after) = Code.render before ++ s ++ "\n" ++ rest := by
  let w := Code.writeAll Writer.fresh before
  have hdepth : w.depth = 0 := Code.depth_writeAll h _
  obtain ⟨rest, hrest⟩ := Code.text_writeAll_prefix (w.line s) after
  refine ⟨String.ofList rest, ?_⟩
  rw [Code.render, Code.writeAll_append, ← String.toList_inj]
  show (Code.writeAll (w.line s) after).text.toList = (w.text ++ s ++ "\n" ++ _).toList
  rw [← hrest, w.text_line s hdepth]
  simp

/-- The text that calls leave ends with a line. -/
theorem Code.finished_render (code : List Code) :
    Code.render code = "" ∨ ∃ front, Code.render code = front ++ "\n" :=
  Code.finished_writeAll (.inl rfl) code

/-- A line behind balanced calls that is not one is read line by line. -/
theorem mem_linesRead_of_mem_split {before after : List Code} (hbefore : Balanced before)
    {s line : String} {result : α} (hline : line ∈ split '\n' s)
    (hread : read (trimStart line) = some result) :
    result ∈ linesRead read (Code.render (before ++ .line s :: after)) := by
  obtain ⟨rest, htext⟩ := Code.render_line hbefore after s
  have hmem : line ∈ split '\n' (Code.render (before ++ .line s :: after)) := by
    rw [htext, split_feed]
    refine List.mem_append_left _ ?_
    obtain hempty | ⟨front, hfront⟩ := Code.finished_render before
    · rwa [hempty, String.empty_append]
    · rw [hfront, split_feed]
      exact List.mem_append_right _ hline
  exact List.mem_filterMap.mpr ⟨line, hmem, hread⟩

end Reading

end Source

end Boundary
