import Boundary.Text.CaseTable

/-!
# Letter case

Case properties and full case mappings of characters, and the lowercase form of a word.

* `isUpper`, `isLower`: the Unicode properties Uppercase and Lowercase.
* `toUpper`, `toLower`: the full mappings, which may give several characters.
* `lowerWord`: lowercase of a word; a capital sigma that ends the word becomes the final form.
* `toUpper_ascii`, `toLower_ascii`: on the first 128 characters the mappings are those of `Char`.
-/

namespace Boundary.Text

/-- Whether the character is one of the first 128. -/
def isAscii (c : Char) : Bool := c.toNat < 128

/-- Whether the character has the property Uppercase. -/
def isUpper (c : Char) : Bool :=
  if isAscii c then c.isUpper else CaseTable.uppercase.contains c

/-- Whether the character has the property Lowercase. -/
def isLower (c : Char) : Bool :=
  if isAscii c then c.isLower else CaseTable.lowercase.contains c

/-- Whether the character has letter case at all. -/
def isCased (c : Char) : Bool :=
  isUpper c || isLower c || CaseTable.titlecase.contains c

/-- Whether the character is passed over in the search for a neighbouring letter. -/
def isCaseIgnorable (c : Char) : Bool := CaseTable.caseIgnorable.contains c

/-- One character looked up in a mapping; a character that it does not name is its own image. -/
def mapCase (sequences : List (Nat × List Nat)) (shifts : List CaseTable.Shift) (c : Char) :
    List Char :=
  match sequences.lookup c.toNat with
  | some image => image.map Char.ofNat
  | none =>
    match shifts.find? (·.span.covers c.toNat) with
    | some shift => [Char.ofNat (c.toNat + shift.distance).toNat]
    | none => [c]

/-- The full uppercase mapping of one character. -/
def toUpper (c : Char) : List Char :=
  if isAscii c then [c.toUpper]
  else mapCase CaseTable.toUpperSequences CaseTable.toUpperShifts c

/-- The full lowercase mapping of one character, without regard to its neighbours. -/
def toLower (c : Char) : List Char :=
  if isAscii c then [c.toLower]
  else mapCase CaseTable.toLowerSequences CaseTable.toLowerShifts c

/-- Whether a cased letter comes next, once case-ignorable characters are passed over. -/
def meetsCased (cs : List Char) : Bool :=
  match cs.dropWhile isCaseIgnorable with
  | c :: _ => isCased c
  | [] => false

/-- The lowercase form of a capital sigma between the reversed text `before` and `after`. -/
def lowerSigma (before after : List Char) : Char :=
  if meetsCased before && !meetsCased after then 'ς' else 'σ'

/-- Lowercase of what remains of a word, where `before` is the part already passed, reversed. -/
def lowerFrom (before : List Char) : List Char → List Char
  | [] => []
  | c :: rest =>
    (if c = 'Σ' then [lowerSigma before rest] else toLower c) ++ lowerFrom (c :: before) rest

/-- The lowercase form of a word. -/
def lowerWord (cs : List Char) : List Char := lowerFrom [] cs

/-- The uppercase form of a word. -/
def upperWord (cs : List Char) : List Char := cs.flatMap toUpper

theorem toUpper_ascii {c : Char} (h : isAscii c = true) : toUpper c = [c.toUpper] := by
  simp [toUpper, h]

theorem toLower_ascii {c : Char} (h : isAscii c = true) : toLower c = [c.toLower] := by
  simp [toLower, h]

end Boundary.Text
