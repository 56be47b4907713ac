import Boundary.Text.CharSet

/-!
# Blank characters

* `isBlank`: the Unicode property White_Space.
* `trim`: a text without the blanks at its two ends.
-/

namespace Boundary.Text

/-- Characters with the property White_Space. -/
def blanks : CharSet :=
  [⟨0x09, 0x0D, 1⟩, ⟨0x20, 0x20, 1⟩, ⟨0x85, 0x85, 1⟩, ⟨0xA0, 0xA0, 1⟩, ⟨0x1680, 0x1680, 1⟩,
    ⟨0x2000, 0x200A, 1⟩, ⟨0x2028, 0x2029, 1⟩, ⟨0x202F, 0x202F, 1⟩, ⟨0x205F, 0x205F, 1⟩,
    ⟨0x3000, 0x3000, 1⟩]

/-- Whether the character is white space. -/
def isBlank (c : Char) : Bool := blanks.contains c

/-- The characters without leading blanks. -/
def trimLeft (cs : List Char) : List Char := cs.dropWhile isBlank

/-- The characters without leading and trailing blanks. -/
def trimChars (cs : List Char) : List Char := (trimLeft (trimLeft cs).reverse).reverse

/-- The text without leading and trailing blanks. -/
def trim (s : String) : String := String.ofList (trimChars s.toList)

end Boundary.Text
