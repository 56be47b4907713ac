import Boundary.Text.PrintTable

/-!
# Quoted text

A text between double quotes in which every character that would not show, or would be mistaken,
is escaped.

* `escapeChar`: the written form of one character.
* `quoted`: the whole text between quotes.
-/

namespace Boundary.Text

/-- The lower-case hexadecimal digits of a number, without padding. -/
def hexDigits (n : Nat) : String := String.ofList (Nat.toDigits 16 n)

/-- Whether the character shows as itself. -/
def isPrintable (c : Char) : Bool := !PrintTable.unprintable.contains c

/-- Whether the character attaches to the one before it. -/
def isGraphemeExtend (c : Char) : Bool := PrintTable.graphemeExtend.contains c

/-- A character by its code point: `\u` and the hexadecimal digits between braces. -/
def escapeCodePoint (c : Char) : String := "\\u\x7b" ++ hexDigits c.toNat ++ "\x7d"

/-- The written form of a character inside double quotes. -/
def escapeChar (c : Char) : String :=
  match c with
  | '\x00' => "\\0"
  | '\t' => "\\t"
  | '\r' => "\\r"
  | '\n' => "\\n"
  | '"' => "\\\""
  | '\\' => "\\\\"
  | c => if isGraphemeExtend c || !isPrintable c then escapeCodePoint c else c.toString

/-- The text between double quotes, with every special character escaped. -/
def quoted (s : String) : String := "\"" ++ String.join (s.toList.map escapeChar) ++ "\""

end Boundary.Text
