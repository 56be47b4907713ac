/-!
# Source locations

* `Location`: where a declaration stands; every part may be missing.
* `Location.display`: its text. Without a line only the file counts.
-/

namespace Boundary

/-- Where a declaration stands. Line zero means that the line is not known. -/
structure Location where
  file : Option String := none
  line : UInt32 := 0
  column : UInt32 := 0
deriving Repr, DecidableEq, Inhabited

/-- The text of a location. -/
def Location.display (l : Location) : String :=
  match l.file, l.line with
  | some file, 0 => file
  | some file, line => s!"{file}:{line}:{l.column}"
  | none, 0 => "<unknown>"
  | none, line => s!"<unknown>:{line}:{l.column}"

end Boundary
