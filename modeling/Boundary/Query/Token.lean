import Boundary.Json.Token

/-!
# Tokens of a query

* `QueryToken`: marks, words, variables, names of members, numbers and texts.
* `QueryToken.ofText?`: the tokens of a query, unless some of its characters start none.
-/

namespace Boundary

open Json

/-- A token of a query. -/
inductive QueryToken
  /-- A mark of one or two characters. -/
  | mark (s : String)
  | word (s : String)
  /-- A name behind a dollar sign. -/
  | variable_ (s : String)
  /-- A name behind a point. -/
  | member (s : String)
  /-- A number, or nothing for one that exceeds the greatest double. -/
  | number (n : Option Number)
  | text (s : String)
deriving Repr, DecidableEq

namespace QueryToken

/-- Whether a name may start with the character. -/
def startsName (c : Char) : Bool := c.isAlpha || c = '_'

/-- Whether a name may go on with the character. -/
def continuesName (c : Char) : Bool := c.isAlphanum || c = '_'

/-- The name at the head of the characters, and the rest. -/
def name? : List Char → Option (String × List Char)
  | c :: rest =>
    if startsName c then
      some (String.ofList (c :: rest.takeWhile continuesName), rest.dropWhile continuesName)
    else none
  | [] => none

/-- The characters of a text up to its closing quotation mark, and the rest. -/
def text? : List Char → Option (List Char × List Char)
  | '"' :: rest => some ([], rest)
  | '\\' :: 'u' :: a :: b :: c :: d :: rest => do
    let digits ← [a, b, c, d].mapM hexValue?
    let (cs, rest) ← text? rest
    some (Char.ofNat (digits.foldl (fun n d => 16 * n + d) 0) :: cs, rest)
  | '\\' :: c :: rest => do
    let e ← shortEscape? c
    let (cs, rest) ← text? rest
    some (e :: cs, rest)
  | c :: rest => do
    let (cs, rest) ← text? rest
    some (c :: cs, rest)
  | [] => none

/-- One digit or more at the head of the characters, and the rest. -/
def digits? (cs : List Char) : Option (List Char × List Char) :=
  match cs.takeWhile Char.isDigit with
  | [] => none
  | ds => some (ds, cs.dropWhile Char.isDigit)

/-- The fraction at the head of the characters with its point, and the rest. -/
def fraction? : List Char → Option (List Char × List Char)
  | '.' :: rest => (digits? rest).map fun (ds, rest) => ('.' :: ds, rest)
  | cs => some ([], cs)

/-- The exponent at the head of the characters with its mark, and the rest. -/
def exponent? : List Char → Option (List Char × List Char)
  | c :: rest =>
    if c = 'e' || c = 'E' then
      match rest with
      | sign :: rest' =>
        if sign = '+' || sign = '-' then
          (digits? rest').map fun (ds, rest) => ('e' :: sign :: ds, rest)
        else (digits? rest).map fun (ds, rest) => ('e' :: ds, rest)
      | [] => none
    else some ([], c :: rest)
  | [] => some ([], [])

/-- Digits without leading zeros. -/
def withoutZeros (ds : List Char) : List Char :=
  match ds.dropWhile (· = '0') with
  | [] => ['0']
  | ds => ds

/-- The number at the head of the characters, and the rest. -/
def number? (cs : List Char) : Option (QueryToken × List Char) := do
  let (whole, rest) ← digits? cs
  let (fraction, rest) ← fraction? rest
  let (exponent, rest) ← exponent? rest
  match (scanNumber .start (withoutZeros whole ++ fraction ++ exponent)).result with
  | .ok n => some (.number (some n), rest)
  | .error _ => some (.number none, rest)

/-- The marks of two characters. -/
def doubleMarks : List String := ["..", "//", "==", "!=", "<=", ">="]

/-- The marks of one character. -/
def singleMarks : List Char :=
  ['.', '|', ',', '+', '-', '<', '>', '?', ':', ';', '(', ')', '[', ']', '\x7b', '\x7d']

/-- The mark at the head of the characters, and the rest. -/
def mark? : List Char → Option (QueryToken × List Char)
  | c :: d :: rest =>
    if doubleMarks.contains (String.ofList [c, d]) then some (.mark (String.ofList [c, d]), rest)
    else if singleMarks.contains c then some (.mark (String.singleton c), d :: rest)
    else none
  | [c] => if singleMarks.contains c then some (.mark (String.singleton c), []) else none
  | [] => none

/-- The token at the head of the characters, and the rest. -/
def next? : List Char → Option (QueryToken × List Char)
  | '"' :: rest => (text? rest).map fun (cs, rest) => (.text (String.ofList cs), rest)
  | '$' :: rest => (name? rest).map fun (s, rest) => (.variable_ s, rest)
  | '.' :: rest =>
    match name? rest with
    | some (s, rest) => some (.member s, rest)
    | none => mark? ('.' :: rest)
  | c :: rest =>
    if c.isDigit then number? (c :: rest)
    else
      match name? (c :: rest) with
      | some (s, rest) => some (.word s, rest)
      | none => mark? (c :: rest)
  | [] => none

/-- The tokens of at most `n` characters. A number sign starts a comment up to the end of the
line. -/
def tokens? : Nat → List Char → Option (List QueryToken)
  | 0, _ => some []
  | _, [] => some []
  | n + 1, c :: rest =>
    if isSpace c then tokens? n rest
    else if c = '#' then tokens? n (rest.dropWhile (· ≠ '\n'))
    else do
      let (token, rest) ← next? (c :: rest)
      return token :: (← tokens? n rest)

/-- The tokens of a query. -/
def ofText? (s : String) : Option (List QueryToken) := tokens? s.length s.toList

end QueryToken

end Boundary
