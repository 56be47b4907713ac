import Boundary.Json.Document
import Boundary.Text.Quoted

/-!
# Values of the wrong shape

* `Path`: the way from the root of a document to one of its parts.
* `Found`: what was found in a place, as an error words it.
* `ShapeError`: why a well-formed document does not denote what it should.
* `Located`: a shape error with its path.
-/

namespace Boundary.Json

/-- A step from a value to one of its parts. -/
inductive Step
  | key (name : String)
  | index (n : Nat)
  /-- A member whose name could not be read. -/
  | unknown
deriving Repr, DecidableEq

/-- The way from the root to a part. -/
abbrev Path := List Step

/-- The text of the steps that follow another one. -/
def Step.following : Step → String
  | .key name => "." ++ name
  | .index n => s!"[{n}]"
  | .unknown => ".?"

/-- The text of the first step. -/
def Step.first : Step → String
  | .key name => name
  | .index n => s!"[{n}]"
  | .unknown => "?"

/-- The text of a path; a point stands for the root. -/
def Path.display : Path → String
  | [] => "."
  | s :: rest => s.first ++ String.join (rest.map Step.following)

/-- What was found in a place. -/
inductive Found
  | null
  | bool (b : Bool)
  | number (n : Number)
  | string (s : String)
  | sequence
  | map
deriving Repr, DecidableEq

/-- The wording of what was found. -/
def Found.display : Found → String
  | .null => "null"
  | .bool b => s!"boolean `{b}`"
  | .number (.int n) => s!"integer `{n}`"
  | .number n => s!"floating point `{n.text}`"
  | .string s => s!"string {Text.quoted s}"
  | .sequence => "sequence"
  | .map => "map"

/-- What a scalar is found to be. -/
def Scalar.found : Scalar → Found
  | .null => .null
  | .bool b => .bool b
  | .number n => .number n
  | .string s => .string s

/-- What a value is found to be. -/
def Value.found : Value → Found
  | .null => .null
  | .bool b => .bool b
  | .number n => .number n
  | .string s => .string s
  | .array _ => .sequence
  | .object _ => .map

/-- Why a well-formed document does not denote what it should. -/
inductive ShapeError
  | invalidType (found : Found) (expected : String)
  | invalidValue (found : Found) (expected : String)
  | invalidLength (length : Nat) (expected : String)
  | unknownVariant (name : String) (known : List String)
  | unknownField (name : String) (known : List String)
  | missingField (name : String)
  | duplicateField (name : String)
deriving Repr, DecidableEq

/-- A list of alternatives in words. -/
def oneOf (names : List String) : String :=
  match names with
  | [a] => s!"`{a}`"
  | [a, b] => s!"`{a}` or `{b}`"
  | names => "one of " ++ ", ".intercalate (names.map fun n => s!"`{n}`")

/-- The wording of a shape error. -/
def ShapeError.message : ShapeError → String
  | .invalidType found expected => s!"invalid type: {found.display}, expected {expected}"
  | .invalidValue found expected => s!"invalid value: {found.display}, expected {expected}"
  | .invalidLength length expected => s!"invalid length {length}, expected {expected}"
  | .unknownVariant name known => s!"unknown variant `{name}`, expected {oneOf known}"
  | .unknownField name known => s!"unknown field `{name}`, expected {oneOf known}"
  | .missingField name => s!"missing field `{name}`"
  | .duplicateField name => s!"duplicate field `{name}`"

/-- A message with the path that it is about. -/
structure Located where
  path : Path
  message : String
deriving Repr, DecidableEq

/-- The wording of an error with its path. -/
def Located.display (e : Located) : String := s!"at JSON path {e.path.display} → {e.message}"

/-- A count in words. -/
def counted (n : Nat) (noun : String) : String :=
  if n = 1 then s!"1 {noun}" else s!"{n} {noun}s"

end Boundary.Json
