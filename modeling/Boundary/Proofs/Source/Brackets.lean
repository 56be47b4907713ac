import Boundary.Proofs.Source.Remarks
import Boundary.Proofs.Text.Braces

/-!
# Brackets in source

Source is written by calls of the writer, some of which open a level of indentation or close one,
and it has braces in its text. Both kinds of brackets are to match.

* `nested_quoted`: texts between quotes.
* `Code.bracket?`, `Code.depth_writeAll_eq`: the depth behind some calls, by counting.
* `levelBehind_of_balanced`: balanced calls close what they open.
* `Code.braces`, `Code.bracesOf_writeAll`: the braces of calls are those of their text.
* `IsNested`: the braces of calls match; `IsNested.append`, `IsNested.level`, `isNested_lines`: the
  ways to put such calls together.
* `WellBracketed`, `IsNested.wellBracketed`: what holds of such calls and their text.
-/

namespace Boundary

/-! ## Quoted texts -/

namespace Text

private theorem nested_escapeChar {c : Char} (h : braceOf? c = none) : Nested (escapeChar c) := by
  unfold escapeChar
  split
  -- The first six characters have a written form of their own.
  iterate 6 exact .ofList (by decide)
  split
  · exact .enclose (.ofList (by decide)) (nested_of_isWord (isWord_hexDigits _))
      (.ofList (by decide))
  · rw [Char.toString, Nested, leads_iff, bracesOf, String.toList_singleton,
      List.filterMap_cons_none h]
    rfl

/-- Between quotes, a character may be written as its number between braces. -/
theorem nested_quoted {t : String} (h : BraceFree t) : Nested (quoted t) := by
  refine (Leads.append (.ofList (by decide)) (nested_join ?_)).append (.ofList (by decide))
  rw [List.forall_mem_map]
  intro c hc
  refine nested_escapeChar (Option.eq_none_iff_forall_ne_some.mpr fun b hb => ?_)
  have hmem : b ∈ bracesOf t := List.mem_filterMap.mpr ⟨c, hc, hb⟩
  rw [h.bracesOf_eq_nil] at hmem
  cases hmem

end Text

namespace Source

open Text

/-! ## Calls of the writer -/

/-- The bracket that a call is between calls: `open_` or `close`. -/
def Code.bracket? : Code → Option Bracket
  | .open_ _ => some .opening
  | .close _ => some .closing
  | .line _ | .lines _ | .blank => none

/-- The depth of the writer is the level that `levelBehind` counts for its calls. -/
theorem Code.depth_writeAll_eq {w : Writer} {code : List Code} {level : Nat}
    (h : levelBehind w.depth (code.filterMap Code.bracket?) = some level) :
    (Code.writeAll w code).depth = level := by
  induction code generalizing w with
  | nil => exact Option.some.inj h
  | cons c rest ih =>
    refine ih (w := Code.write w c) ?_
    cases c with
    | line text =>
      rw [Code.write, Writer.depth_line]
      exact h
    | lines text =>
      rw [Code.write, Writer.depth_lines]
      exact h
    | blank =>
      rw [Code.write, Writer.depth_blank]
      exact h
    | open_ header =>
      rw [Code.write, Writer.depth_open]
      exact h
    | close footer =>
      rw [Code.write, Writer.depth_close]
      cases hdepth : w.depth with
      | zero =>
        rw [hdepth] at h
        cases h
      | succ depth =>
        rw [hdepth] at h
        exact h

/-- **Calls that are `Balanced` close what they open**, and nothing else. -/
theorem levelBehind_of_balanced {code : List Code} (h : Balanced code) (depth : Nat) :
    levelBehind depth (code.filterMap Code.bracket?) = some depth := by
  induction h generalizing depth with
  | nil => rfl
  | line text _ ih => exact ih depth
  | lines text _ ih => exact ih depth
  | blank _ ih => exact ih depth
  | @block header footer body rest _ _ ihbody ihrest =>
    have hbrackets : (level header footer body ++ rest).filterMap Code.bracket? =
        .opening :: (body.filterMap Code.bracket? ++ .closing :: rest.filterMap Code.bracket?) := by
      simp [level, Code.bracket?]
    rw [hbrackets, levelBehind, levelBehind_append, ihbody]
    exact ihrest depth

/-! ## Braces of calls -/

/-- The braces in the lines of the calls `code`. -/
def Code.braces (code : List Code) : List Bracket := (Code.textsAll code).flatMap bracesOf

theorem Code.braces_append (a b : List Code) :
    Code.braces (a ++ b) = Code.braces a ++ Code.braces b := by
  rw [Code.braces, Code.textsAll_append, List.flatMap_append]
  rfl

theorem Code.braces_level (header footer : String) (body : List Code) :
    Code.braces (level header footer body) =
      bracesOf header ++ (Code.braces body ++ bracesOf footer) := by
  simp [level, Code.braces, Code.textsAll, Code.textsAll_append, Code.texts]

/-- Indentation has no braces. -/
theorem Writer.bracesOf_indentation {w : Writer} (h : bracesOf w.unit = []) :
    bracesOf w.indentation = [] := by
  rw [Writer.indentation, bracesOf_join, List.flatMap_eq_nil_iff]
  intro part hpart
  obtain rfl := List.eq_of_mem_replicate hpart
  exact h

theorem Writer.bracesOf_line {w : Writer} (h : bracesOf w.unit = []) (s : String) :
    bracesOf (w.line s).text = bracesOf w.text ++ bracesOf s := by
  have hfeed : bracesOf "\n" = [] := by decide
  unfold Writer.line
  split
  · rename_i hempty
    obtain rfl : s = "" := by simpa using hempty
    rw [bracesOf_append, hfeed]
    rfl
  · simp [Writer.bracesOf_indentation h, hfeed]

theorem Writer.unit_line (w : Writer) (s : String) : (w.line s).unit = w.unit := by
  unfold Writer.line
  split <;> rfl

theorem Writer.bracesOf_lines {w : Writer} (h : bracesOf w.unit = []) (s : String) :
    (w.lines s).unit = w.unit ∧
      bracesOf (w.lines s).text = bracesOf w.text ++ (Text.lines s).flatMap bracesOf := by
  unfold Writer.lines
  induction Text.lines s generalizing w with
  | nil => simp
  | cons line rest ih =>
    obtain ⟨hunit, hrest⟩ := ih (w := w.line line) ((w.unit_line line).symm ▸ h)
    refine ⟨hunit.trans (w.unit_line line), hrest.trans ?_⟩
    rw [Writer.bracesOf_line h, List.append_assoc, List.flatMap_cons]

theorem Writer.bracesOf_blank (w : Writer) : bracesOf w.blank.text = bracesOf w.text := by
  have hfeed : bracesOf "\n" = [] := by decide
  unfold Writer.blank
  split
  · rw [bracesOf_append, hfeed, List.append_nil]
  · rfl

theorem Writer.unit_blank (w : Writer) : w.blank.unit = w.unit := by
  unfold Writer.blank
  split <;> rfl

theorem Code.bracesOf_write {w : Writer} (h : bracesOf w.unit = []) (c : Code) :
    (Code.write w c).unit = w.unit ∧
      bracesOf (Code.write w c).text = bracesOf w.text ++ c.texts.flatMap bracesOf := by
  cases c with
  | line text =>
    refine ⟨w.unit_line text, (Writer.bracesOf_line h text).trans ?_⟩
    rw [Code.texts, List.flatMap_singleton]
  | lines text => exact Writer.bracesOf_lines h text
  | blank => exact ⟨w.unit_blank, w.bracesOf_blank.trans (List.append_nil _).symm⟩
  | open_ header =>
    refine ⟨w.unit_line header, (Writer.bracesOf_line h header).trans ?_⟩
    rw [Code.texts, List.flatMap_singleton]
  | close footer =>
    refine ⟨Writer.unit_line _ footer,
      (Writer.bracesOf_line (w := { w with depth := w.depth - 1 }) h footer).trans ?_⟩
    rw [Code.texts, List.flatMap_singleton]

/-- **The braces of calls are those of their text.** -/
theorem Code.bracesOf_writeAll {w : Writer} (h : bracesOf w.unit = []) (code : List Code) :
    bracesOf (Code.writeAll w code).text = bracesOf w.text ++ Code.braces code := by
  induction code generalizing w with
  | nil => simp [Code.writeAll, Code.braces, Code.textsAll]
  | cons c rest ih =>
    obtain ⟨hunit, hfirst⟩ := Code.bracesOf_write h c
    have hrest := ih (w := Code.write w c) (hunit.symm ▸ h)
    rw [Code.writeAll] at hrest
    rw [Code.writeAll, List.foldl_cons, hrest, hfirst]
    simp [Code.braces, Code.textsAll]

/-! ## Calls whose braces match -/

/-- The braces in the lines of the calls `code` match. -/
structure IsNested (code : List Code) : Prop where
  levelBehind_eq : levelBehind 0 (Code.braces code) = some 0

theorem isNested_nil : IsNested [] := ⟨rfl⟩

theorem isNested_blank : IsNested [.blank] := ⟨rfl⟩

theorem IsNested.append {a b : List Code} (ha : IsNested a) (hb : IsNested b) :
    IsNested (a ++ b) := by
  refine ⟨?_⟩
  rw [Code.braces_append, levelBehind_append, ha.levelBehind_eq]
  exact hb.levelBehind_eq

theorem IsNested.flatMap {α : Type} {code : α → List Code} {as : List α}
    (h : ∀ a ∈ as, IsNested (code a)) : IsNested (as.flatMap code) := by
  induction as with
  | nil => exact isNested_nil
  | cons a rest ih =>
    rw [List.forall_mem_cons] at h
    rw [List.flatMap_cons]
    exact h.1.append (ih h.2)

theorem IsNested.map {α : Type} {code : α → Code} {as : List α} (h : ∀ a ∈ as, IsNested [code a]) :
    IsNested (as.map code) := by
  rw [List.map_eq_flatMap]
  exact IsNested.flatMap h

theorem isNested_line {text : String} (h : Nested text) : IsNested [.line text] := by
  refine ⟨?_⟩
  rw [Code.braces, Code.textsAll, Code.texts, Code.textsAll, List.append_nil,
    List.flatMap_singleton]
  exact h.levelBehind_eq

theorem IsNested.level {header footer : String} {body : List Code} (hheader : Leads 0 1 header)
    (hbody : IsNested body) (hfooter : Leads 1 0 footer) :
    IsNested (level header footer body) := by
  have hinside := levelBehind_add hbody.levelBehind_eq 1
  refine ⟨?_⟩
  rw [Code.braces_level, levelBehind_append, hheader.levelBehind_eq, Option.bind_some,
    levelBehind_append, hinside]
  exact hfooter.levelBehind_eq

private theorem filterMap_dropReturn (line : List Char) :
    (dropReturn line).filterMap braceOf? = line.filterMap braceOf? := by
  unfold dropReturn
  split
  · rename_i hreturn
    obtain ⟨front, rfl⟩ := List.getLast?_eq_some_iff.mp hreturn
    rw [List.dropLast_concat, List.filterMap_append]
    exact (List.append_nil _).symm
  · rfl

/-- Neither a line feed nor a carriage return is a brace. -/
theorem flatMap_linesFrom (under cs : List Char) :
    (linesFrom under cs).flatMap (·.filterMap braceOf?) =
      (under.reverse ++ cs).filterMap braceOf? := by
  fun_induction linesFrom under cs with
  | case1 under hempty => simp_all
  | case2 under hempty => simp
  | case3 under rest ih =>
    rw [List.flatMap_cons, ih, filterMap_dropReturn, List.filterMap_append, List.filterMap_append]
    rfl
  | case4 under c rest _ ih =>
    rw [ih, List.reverse_cons, List.append_assoc]
    rfl

theorem bracesOf_lines (text : String) : (Text.lines text).flatMap bracesOf = bracesOf text := by
  have hlines := flatMap_linesFrom [] text.toList
  rw [Text.lines, List.flatMap_map]
  simpa [bracesOf] using hlines

/-- A text that is `Nested` may be written line by line. -/
theorem isNested_lines {text : String} (h : Nested text) : IsNested [.lines text] := by
  refine ⟨?_⟩
  rw [Code.braces, Code.textsAll, Code.texts, Code.textsAll, List.append_nil, bracesOf_lines]
  exact h.levelBehind_eq

/-! ## Files -/

/-- The brackets of the file `source` that is written by the calls `code` match: no call closes a
level at the outermost depth, and the last call leaves the writer there; no beginning of the text
closes more braces than it opens, and the whole text as many. -/
structure WellBracketed (code : List Code) (source : String) : Prop where
  text_eq : (Code.writeAll Writer.fresh code).text = source
  close_pos : ∀ front footer back, code = front ++ .close footer :: back →
    0 < (Code.writeAll Writer.fresh front).depth
  depth_eq : (Code.writeAll Writer.fresh code).depth = 0
  count_le : ∀ front, front <+: source.toList → front.count '}' ≤ front.count '{'
  count_eq : source.toList.count '{' = source.toList.count '}'

/-- No `close` of calls that are `Balanced` is made at depth zero. -/
theorem Balanced.depth_pos_of_close {front back : List Code} {footer : String}
    (h : Balanced (front ++ .close footer :: back)) :
    0 < (Code.writeAll Writer.fresh front).depth := by
  have hlevel := levelBehind_of_balanced h Writer.fresh.depth
  rw [List.filterMap_append, levelBehind_append, Option.bind_eq_some_iff] at hlevel
  obtain ⟨level, hfront, hback⟩ := hlevel
  rw [Code.depth_writeAll_eq hfront]
  cases level with
  | zero => cases hback
  | succ level => omega

/-- **Calls that are `Balanced` and whose braces match** write a text with matching brackets. -/
theorem IsNested.wellBracketed {code : List Code} (h : IsNested code) (hcode : Balanced code) :
    WellBracketed code (Code.render code) := by
  have htext : bracesOf (Code.render code) = Code.braces code :=
    Code.bracesOf_writeAll (w := Writer.fresh) (by decide) code
  have hnested : Nested (Code.render code) := by
    rw [Nested, leads_iff, htext]
    exact h.levelBehind_eq
  obtain ⟨hle, heq⟩ := nested_iff.mp hnested
  exact ⟨rfl, fun _ _ _ hsplit => (hsplit ▸ hcode).depth_pos_of_close, Code.depth_writeAll hcode _,
    hle, heq⟩

end Source

end Boundary
