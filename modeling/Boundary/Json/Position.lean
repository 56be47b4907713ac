/-!
# Places in a text

* `Position`: a line and a column, where columns count bytes.
* `Position.after`, `Position.at_`: the place behind a character, and the place named by an error
  about a character that is looked at but not yet read.
* `SyntaxError`: why a text is no JSON, and where that shows.
-/

namespace Boundary.Json

/-- A place in a text: lines are counted from one, and the column is the number of bytes that
precede the place on its line. -/
structure Position where
  line : Nat
  column : Nat
deriving Repr, DecidableEq, Inhabited

/-- The place before the first character. -/
def Position.start : Position := ⟨1, 0⟩

/-- The place behind the character `c`. -/
def Position.after (p : Position) (c : Char) : Position :=
  if c = '\n' then ⟨p.line + 1, 0⟩ else ⟨p.line, p.column + c.utf8Size⟩

/-- The place behind the first byte of the character `c`, which is where an error about `c` is
reported while `c` is only looked at. -/
def Position.at_ (p : Position) (c : Char) : Position :=
  if c = '\n' then ⟨p.line + 1, 0⟩ else ⟨p.line, p.column + 1⟩

/-- The place behind all the characters. -/
def Position.afterAll (p : Position) (cs : List Char) : Position := cs.foldl Position.after p

/-- The place behind the first `n` bytes of the characters. -/
def Position.afterBytes (p : Position) : Nat → List Char → Position
  | 0, _ => p
  | _, [] => p
  | n + 1, c :: cs =>
    if c.utf8Size ≤ n + 1 then (p.after c).afterBytes (n + 1 - c.utf8Size) cs
    else ⟨p.line, p.column + (n + 1)⟩
termination_by _ cs => cs.length

/-- Why a text is no JSON. -/
inductive SyntaxCause
  | endInArray
  | endInObject
  | endInString
  | endInValue
  | expectedColon
  | expectedCommaOrBracket
  | expectedCommaOrBrace
  | expectedIdent
  | expectedValue
  | invalidEscape
  | invalidNumber
  | numberOutOfRange
  | controlCharacter
  | keyNotString
  | loneSurrogate
  | trailingComma
  | trailingCharacters
  | unpairedSurrogate
  | tooDeep
deriving Repr, DecidableEq

/-- The wording of a cause. -/
def SyntaxCause.message : SyntaxCause → String
  | .endInArray => "EOF while parsing a list"
  | .endInObject => "EOF while parsing an object"
  | .endInString => "EOF while parsing a string"
  | .endInValue => "EOF while parsing a value"
  | .expectedColon => "expected `:`"
  | .expectedCommaOrBracket => "expected `,` or `]`"
  | .expectedCommaOrBrace => "expected `,` or `\x7d`"
  | .expectedIdent => "expected ident"
  | .expectedValue => "expected value"
  | .invalidEscape => "invalid escape"
  | .invalidNumber => "invalid number"
  | .numberOutOfRange => "number out of range"
  | .controlCharacter => "control character (\\u0000-\\u001F) found while parsing a string"
  | .keyNotString => "key must be a string"
  | .loneSurrogate => "lone leading surrogate in hex escape"
  | .trailingComma => "trailing comma"
  | .trailingCharacters => "trailing characters"
  | .unpairedSurrogate => "unexpected end of hex escape"
  | .tooDeep => "recursion limit exceeded"

/-- A message with the place that it is about. -/
def Position.locate (p : Position) (message : String) : String :=
  s!"{message} at line {p.line} column {p.column}"

/-- A fault in the syntax of a text. -/
structure SyntaxError where
  cause : SyntaxCause
  position : Position
deriving Repr, DecidableEq

/-- The wording of a syntax error. -/
def SyntaxError.message (e : SyntaxError) : String := e.position.locate e.cause.message

end Boundary.Json
