import Boundary.Text.Lines

/-!
# Source text

Generated source is written line by line at a depth of indentation.

* `Writer`: the text so far and the depth.
* `Writer.line`, `Writer.lines`, `Writer.blank`, `Writer.open_`, `Writer.close`: the steps.
* `Code`: a call of the writer; source is a list of calls, in which nothing makes a `Code.close` for
  every `Code.open_`.
* `Code.write`, `Code.writeAll`, `Code.render`: what calls do, and the text that they leave.
-/

namespace Boundary.Source

/-- Source `text` under construction, at a `depth` of indentation. -/
structure Writer where
  /-- What one level of indentation consists of. -/
  unit : String
  text : String := ""
  depth : Nat := 0

/-- The indentation of the next line. -/
def Writer.indentation (w : Writer) : String := String.join (List.replicate w.depth w.unit)

/-- One line at the current depth. An empty line is not indented. -/
def Writer.line (w : Writer) (s : String) : Writer :=
  if s.isEmpty then { w with text := w.text ++ "\n" }
  else { w with text := w.text ++ (w.indentation ++ s ++ "\n") }

/-- Each line of the text `s` at the current depth. -/
def Writer.lines (w : Writer) (s : String) : Writer := (Text.lines s).foldl Writer.line w

/-- An empty line, unless the text is empty or ends with two line feeds. -/
def Writer.blank (w : Writer) : Writer :=
  if !w.text.isEmpty && !w.text.endsWith "\n\n" then { w with text := w.text ++ "\n" } else w

/-- A line after which the depth is greater by one. -/
def Writer.open_ (w : Writer) (header : String) : Writer :=
  let w := w.line header
  { w with depth := w.depth + 1 }

/-- A line before which the depth is less by one, but never less than nothing. -/
def Writer.close (w : Writer) (footer : String) : Writer :=
  Writer.line { w with depth := w.depth - 1 } footer

/-- A call of the writer. -/
inductive Code
  | line (text : String)
  /-- The lines of a text, each at the current depth. -/
  | lines (text : String)
  | blank
  /-- A line behind which everything stands one level deeper, up to the next `close` of this
  level. -/
  | open_ (header : String)
  | close (footer : String)
deriving Repr, DecidableEq, Inhabited

/-- What a call does to the writer `w`. -/
def Code.write (w : Writer) : Code → Writer
  | .line text => w.line text
  | .lines text => w.lines text
  | .blank => w.blank
  | .open_ header => w.open_ header
  | .close footer => w.close footer

/-- What the calls `code` do, one after the other. -/
def Code.writeAll (w : Writer) (code : List Code) : Writer := code.foldl Code.write w

/-- The writer that a file is begun with, with four blanks for each level. -/
def Writer.fresh : Writer := { unit := "    " }

/-- The text that the calls `code` leave. -/
def Code.render (code : List Code) : String := (Code.writeAll Writer.fresh code).text

theorem Writer.depth_line (w : Writer) (s : String) : (w.line s).depth = w.depth := by
  unfold line; split <;> rfl

theorem Writer.depth_lines (w : Writer) (s : String) : (w.lines s).depth = w.depth := by
  unfold lines
  induction Text.lines s generalizing w with
  | nil => rfl
  | cons line rest ih => exact (ih _).trans (w.depth_line line)

theorem Writer.depth_blank (w : Writer) : w.blank.depth = w.depth := by
  unfold blank; split <;> rfl

theorem Writer.depth_open (w : Writer) (s : String) : (w.open_ s).depth = w.depth + 1 := by
  simp [open_, depth_line]

theorem Writer.depth_close (w : Writer) (s : String) : (w.close s).depth = w.depth - 1 := by
  simp [close, depth_line]

end Boundary.Source
