/-!
# Lines of a text

* `lines`: the lines of a text. A line ends at a line feed, and a carriage return before the line
  feed belongs to the ending; an unfinished last line counts if it is not empty.
-/

namespace Boundary.Text

/-- A finished line without the carriage return before its line feed. -/
def dropReturn (line : List Char) : List Char :=
  if line.getLast? = some '\r' then line.dropLast else line

/-- The lines of `cs`, where `open_` holds the characters of the line under way, reversed. -/
def linesFrom (open_ : List Char) : List Char → List (List Char)
  | [] => if open_.isEmpty then [] else [open_.reverse]
  | c :: rest =>
    if c = '\n' then dropReturn open_.reverse :: linesFrom [] rest
    else linesFrom (c :: open_) rest

/-- The lines of a text, without their endings. -/
def lines (s : String) : List String := (linesFrom [] s.toList).map String.ofList

end Boundary.Text
