import Boundary.Naming.Words
import Boundary.Naming.Keywords

/-!
# Names on both sides

How the name of a native declaration is spelled in native and in managed code. The functions here
are pure; that two names may become one is noticed where a schema is built.

* `isIdentifier`: the names that a declaration may have.
* `bare`: a name without the mark of a raw identifier.
* `pascal`, `camel`, `snake`: `PersonName`, `personName` and `person_name`.
* `managedIdent`, `nativeIdent`: a name marked where the language reserves it.
-/

namespace Boundary.Naming

open Boundary.Text

/-- The name `name` without `r#`, the mark of a raw identifier. -/
def bare (name : String) : String := String.ofList (bareChars name.toList)

/-- Whether an identifier may start with the character `c`. -/
def isIdentStart (c : Char) : Bool := c.isAlpha || c = '_'

/-- Whether an identifier may go on with the character `c`. -/
def isIdentPart (c : Char) : Bool := c.isAlphanum || c = '_'

/-- Whether `name` is an identifier, perhaps marked as raw, and not a single underscore or a word
that names a place in the module tree. -/
def isIdentifier (name : String) : Bool :=
  (match bareChars name.toList with
    | [] => false
    | c :: rest => isIdentStart c && rest.all isIdentPart) &&
  name ≠ "_" && !nativeNonRaw.contains (bare name)

/-- A word with its first letter in uppercase and the others in lowercase. -/
def capitalize : List Char → List Char
  | [] => []
  | c :: rest => toUpper c ++ rest.flatMap toLower

/-- The characters of `pascal`. -/
def pascalChars (cs : List Char) : List Char :=
  let out := (words cs).flatMap capitalize
  if out.head?.any Char.isDigit then '_' :: out else out

/-- `person_name` as `PersonName`. A leading digit is kept apart by an underscore. -/
def pascal (name : String) : String := String.ofList (pascalChars name.toList)

/-- The characters of `camel`. -/
def camelChars (cs : List Char) : List Char :=
  match pascalChars cs with
  | [] => []
  | c :: rest => toLower c ++ rest

/-- `person_name` as `personName`. -/
def camel (name : String) : String := String.ofList (camelChars name.toList)

/-- The characters of `snake`. -/
def snakeChars (cs : List Char) : List Char :=
  ['_'].intercalate ((words cs).map lowerWord)

/-- `PersonName` as `person_name`. -/
def snake (name : String) : String := String.ofList (snakeChars name.toList)

/-- The name `name` in managed code, marked by `@` if it is a keyword there. -/
def managedIdent (name : String) : String :=
  if managedKeywords.contains name then "@" ++ name else name

/-- The name `name` in native code, marked by `r#` if it is a keyword there. -/
def nativeIdent (name : String) : String :=
  let name := bare name
  if nativeKeywords.contains name then "r#" ++ name else name

/-- What stands behind the last double colon, or `last` if there is none. -/
def lastSegmentChars : (last : List Char) → List Char → List Char
  | last, [] => last
  | _, ':' :: ':' :: rest => lastSegmentChars rest (':' :: rest)
  | last, _ :: rest => lastSegmentChars last rest

/-- The part of `path` behind its last double colon, or the whole path if there is none. -/
def lastSegment (path : String) : String :=
  String.ofList (lastSegmentChars path.toList path.toList)

end Boundary.Naming
