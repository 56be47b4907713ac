import Boundary.Json.Number

/-!
# Tokens of a JSON text

* `Token`: a bracket, a mark or a scalar with the places around it. A scalar that cannot be read
  keeps its error, which counts only if the scalar is wanted there.
* `Tokens`: the tokens up to the end of the text or to a character that starts none.
* `Tokens.ofText`: the tokens of a text.
-/

namespace Boundary.Json

/-- A value without parts. -/
inductive Scalar
  | null
  | bool (b : Bool)
  | number (n : Number)
  | string (s : String)
deriving Repr, DecidableEq

/-- The kinds of token. -/
inductive TokenKind
  | openArray
  | closeArray
  | openObject
  | closeObject
  | comma
  | colon
  | string (s : Except SyntaxError String)
  | scalar (s : Except SyntaxError Scalar)

/-- A token with the place before it, the place named by an error about its first character, and
the place behind it. -/
structure Token where
  kind : TokenKind
  start : Position
  head : Position
  stop : Position

/-- The tokens of a text. -/
inductive Tokens
  | token (t : Token) (rest : Tokens)
  | stray (start head : Position)
  | finish (p : Position)

/-- Whether the character may stand between tokens. -/
def isSpace (c : Char) : Bool := c = ' ' || c = '\n' || c = '\t' || c = '\r'

/-! ## Strings -/

/-- The character of an escape of one letter. -/
def shortEscape? (c : Char) : Option Char :=
  match c with
  | '"' => some '"'
  | '\\' => some '\\'
  | '/' => some '/'
  | 'b' => some '\x08'
  | 'f' => some '\x0c'
  | 'n' => some '\n'
  | 'r' => some '\r'
  | 't' => some '\t'
  | _ => none

/-- The value of a hexadecimal digit. -/
def hexValue? (c : Char) : Option Nat :=
  if c.isDigit then some (c.toNat - '0'.toNat)
  else if 'a' ≤ c && c ≤ 'f' then some (c.toNat - 'a'.toNat + 10)
  else if 'A' ≤ c && c ≤ 'F' then some (c.toNat - 'A'.toNat + 10)
  else none

/-- The number of bytes of the characters. -/
def byteCount (cs : List Char) : Nat := cs.foldl (fun n c => n + c.utf8Size) 0

/-- The unit that the next four bytes spell in hexadecimal digits. -/
def scanUnit (p : Position) (cs : List Char) : Except SyntaxError Nat :=
  if byteCount (cs.take 4) < 4 then .error ⟨.endInString, p.afterAll cs⟩
  else
    match (cs.take 4).mapM hexValue? with
    | some [a, b, c, d] => .ok (((a * 16 + b) * 16 + c) * 16 + d)
    | _ => .error ⟨.invalidEscape, p.afterBytes 4 cs⟩

/-- Whether the unit is the first half of a surrogate pair. -/
def isHighSurrogate (n : Nat) : Bool := 0xD800 ≤ n && n ≤ 0xDBFF

/-- Whether the unit is the second half of a surrogate pair. -/
def isLowSurrogate (n : Nat) : Bool := 0xDC00 ≤ n && n ≤ 0xDFFF

/-- The character written by one unit or by a pair of them, from behind the first `\u`, and how
many characters that takes. -/
def scanCodePoint (p : Position) (cs : List Char) : Except SyntaxError (Char × Nat) := do
  let high ← scanUnit p cs
  let p := p.forward 4
  if isLowSurrogate high then throw ⟨.loneSurrogate, p⟩
  if !isHighSurrogate high then return (Char.ofNat high, 4)
  match cs.drop 4 with
  | [] => throw ⟨.endInString, p⟩
  | '\\' :: [] => throw ⟨.endInString, p.forward 1⟩
  | '\\' :: 'u' :: cs =>
    let low ← scanUnit (p.forward 2) cs
    if !isLowSurrogate low then throw ⟨.loneSurrogate, p.forward 6⟩
    return (Char.ofNat (0x10000 + (high - 0xD800) * 0x400 + (low - 0xDC00)), 10)
  | '\\' :: c :: _ => throw ⟨.unpairedSurrogate, (p.forward 1).at_ c⟩
  | c :: _ => throw ⟨.unpairedSurrogate, p.at_ c⟩

/-- The character of an escape, from behind its backslash, and how many characters that takes. -/
def scanEscape (p : Position) : List Char → Except SyntaxError (Char × Nat)
  | [] => .error ⟨.endInString, p⟩
  | c :: rest =>
    match shortEscape? c with
    | some e => .ok (e, 1)
    | none =>
      if c = 'u' then (scanCodePoint (p.forward 1) rest).map fun (e, n) => (e, n + 1)
      else .error ⟨.invalidEscape, p.at_ c⟩

/-- The rest of a string, where `read` are its characters so far, reversed, and `used` counts the
characters of the text so far. -/
def scanString (p : Position) (read : List Char) (used : Nat) (cs : List Char) : Scan String :=
  match cs with
  | [] => .fail .endInString p
  | c :: rest =>
    if c = '"' then ⟨.ok (String.ofList read.reverse), p.forward 1, used + 1⟩
    else if c = '\\' then
      match scanEscape (p.forward 1) rest with
      | .error e => ⟨.error e, e.position, 0⟩
      | .ok (e, n) =>
        scanString (p.forward (n + 1)) (e :: read) (used + n + 1) (rest.drop n)
    else if c < ' ' then .fail .controlCharacter (p.after c)
    else scanString (p.after c) (c :: read) (used + 1) rest
termination_by cs.length
decreasing_by
  · simp only [List.length_drop, List.length_cons]; omega
  · simp

/-! ## Literals -/

/-- The rest of a literal of which the characters `expected` are still to come. -/
def scanWord (p : Position) (used : Nat) (value : Scalar) :
    (expected cs : List Char) → Scan Scalar
  | [], _ => ⟨.ok value, p, used⟩
  | _ :: _, [] => .fail .endInValue p
  | e :: expected, c :: rest =>
    if c = e then scanWord (p.after c) (used + 1) value expected rest
    else .fail .expectedIdent (p.at_ c)

/-- The literal or number that starts with `c`; `none` if nothing starts so. -/
def scanScalar? (p : Position) (c : Char) (rest : List Char) : Option (Scan Scalar) :=
  match c with
  | 'n' => some (scanWord (p.after c) 1 .null ['u', 'l', 'l'] rest)
  | 't' => some (scanWord (p.after c) 1 (.bool true) ['r', 'u', 'e'] rest)
  | 'f' => some (scanWord (p.after c) 1 (.bool false) ['a', 'l', 's', 'e'] rest)
  | c =>
    if c = '-' || c.isDigit then
      let s := scanNumber p (c :: rest)
      some ⟨s.result.map .number, s.stop, s.used⟩
    else none

/-- The bracket or mark that the character is. -/
def punctuation? (c : Char) : Option TokenKind :=
  match c with
  | '[' => some .openArray
  | ']' => some .closeArray
  | '\x7b' => some .openObject
  | '\x7d' => some .closeObject
  | ',' => some .comma
  | ':' => some .colon
  | _ => none

/-- The tokens of the characters from the place `p` on. -/
def Tokens.scan (p : Position) (cs : List Char) : Tokens :=
  match cs with
  | [] => .finish p
  | c :: rest =>
    if isSpace c then Tokens.scan (p.after c) rest
    else
      match punctuation? c with
      | some kind => .token ⟨kind, p, p.at_ c, p.after c⟩ (Tokens.scan (p.after c) rest)
      | none =>
        if c = '"' then
          let s := scanString (p.forward 1) [] 0 rest
          .token ⟨.string s.result, p, p.at_ c, s.stop⟩ (Tokens.scan s.stop (rest.drop s.used))
        else
          match scanScalar? p c rest with
          | some s =>
            .token ⟨.scalar s.result, p, p.at_ c, s.stop⟩
              (Tokens.scan s.stop (rest.drop (s.used - 1)))
          | none => .stray p (p.at_ c)
termination_by cs.length
decreasing_by
  · simp
  · simp
  · simp only [List.length_drop, List.length_cons]; omega
  · simp only [List.length_drop, List.length_cons]; omega

/-- The tokens of a text. -/
def Tokens.ofText (s : String) : Tokens := .scan .start s.toList

end Boundary.Json
