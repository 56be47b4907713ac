import Boundary.Text.Split

/-!
# Patterns of names

* `PatternToken`: what a part of a pattern stands for.
* `Pattern.parse`: the tokens of a pattern, or where it is malformed.
* `Pattern.accepts`: whether a name is of the form that a pattern describes.
* `accepts_literal`: a pattern of plain characters accepts exactly these characters.
-/

namespace Boundary

/-- What a part of a pattern stands for. -/
inductive PatternToken
  | char (c : Char)
  | anyChar
  | anyText
  /-- Any number of directories. -/
  | anyPath
  /-- One of the characters in the ranges. -/
  | within (ranges : List (Char × Char))
  /-- A character in none of the ranges. -/
  | outside (ranges : List (Char × Char))
deriving Repr, DecidableEq

/-- Why a pattern is malformed. -/
inductive PatternFault
  | wildcards
  | recursiveWildcards
  | range
deriving Repr, DecidableEq

/-- What is wrong. -/
def PatternFault.reason : PatternFault → String
  | .wildcards => "wildcards are either regular `*` or recursive `**`"
  | .recursiveWildcards => "recursive wildcards must form a single path component"
  | .range => "invalid range pattern"

/-- A fault with the number of characters before it. -/
structure PatternError where
  position : Nat
  fault : PatternFault
deriving Repr, DecidableEq

/-- The wording of an error. -/
def PatternError.message (e : PatternError) : String :=
  s!"Pattern syntax error near position {e.position}: {e.fault.reason}"

namespace Pattern

/-- The ranges that are listed between brackets. -/
def ranges : List Char → List (Char × Char)
  | low :: '-' :: high :: rest => (low, high) :: ranges rest
  | c :: rest => (c, c) :: ranges rest
  | [] => []

/-- The characters up to the first closing bracket that is not the first character, and what stands
behind the bracket. -/
def bracketed? : List Char → Option (List Char × List Char)
  | [] => none
  | c :: rest =>
    let listed := rest.takeWhile (· ≠ ']')
    match rest.dropWhile (· ≠ ']') with
    | [] => none
    | _ :: behind => some (c :: listed, behind)

/-- The token of a list of characters from behind the opening bracket, and what follows it. -/
def bracketToken? : List Char → Option (PatternToken × List Char)
  | '!' :: rest => (bracketed? rest).map fun (listed, behind) => (.outside (ranges listed), behind)
  | cs => (bracketed? cs).map fun (listed, behind) => (.within (ranges listed), behind)

/-- The tokens of a pattern from behind `position` characters, the last of which is `previous`,
where `n` is at least the number of characters. -/
def tokens : Nat → Nat → Option Char → List Char → Except PatternError (List PatternToken)
  | 0, _, _, _ => .ok []
  | _, _, _, [] => .ok []
  | n + 1, position, previous, c :: rest =>
    if c = '?' then do return .anyChar :: (← tokens n (position + 1) (some c) rest)
    else if c = '*' then
      let more := rest.takeWhile (· = '*')
      let behind := rest.dropWhile (· = '*')
      match more with
      | [] => do return .anyText :: (← tokens n (position + 1) (some '*') behind)
      | [_] =>
        if previous = none || previous = some '/' then
          match behind with
          | [] => .ok [.anyPath]
          | '/' :: behind => do return .anyPath :: (← tokens n (position + 3) (some '/') behind)
          | _ => .error ⟨position + 2, .recursiveWildcards⟩
        else .error ⟨position - 1, .recursiveWildcards⟩
      | _ => .error ⟨position + 2, .wildcards⟩
    else if c = '[' then
      match bracketToken? rest with
      | some (token, behind) => do
        let taken := rest.length - behind.length + 1
        return token :: (← tokens n (position + taken) (some ']') behind)
      | none => .error ⟨position, .range⟩
    else do return .char c :: (← tokens n (position + 1) (some c) rest)

/-- The tokens of a pattern. -/
def parse (pattern : String) : Except PatternError (List PatternToken) :=
  tokens pattern.length 0 none pattern.toList

/-- Whether a character is in one of the ranges. -/
def inRanges (ranges : List (Char × Char)) (c : Char) : Bool :=
  ranges.any fun (low, high) => low ≤ c && c ≤ high

/-- Whether the characters are of the form that the tokens describe. -/
def accepts : List PatternToken → List Char → Bool
  | [], cs => cs.isEmpty
  | .anyText :: rest, cs | .anyPath :: rest, cs =>
    (List.range (cs.length + 1)).any fun k => accepts rest (cs.drop k)
  | _ :: _, [] => false
  | .char c :: rest, d :: ds => c = d && accepts rest ds
  | .anyChar :: rest, _ :: ds => accepts rest ds
  | .within listed :: rest, d :: ds => inRanges listed d && accepts rest ds
  | .outside listed :: rest, d :: ds => !inRanges listed d && accepts rest ds

theorem accepts_literal (cs ds : List Char) :
    accepts (cs.map PatternToken.char) ds = true ↔ cs = ds := by
  induction cs generalizing ds with
  | nil => cases ds <;> simp [accepts]
  | cons c cs ih => cases ds <;> simp [accepts, ih]

/-- The character that a token is. -/
def charOf? : PatternToken → Option Char
  | .char c => some c
  | _ => none

/-- The characters of a pattern without any other token. -/
def literal? (tokens : List PatternToken) : Option String :=
  (tokens.mapM charOf?).map String.ofList

end Pattern

end Boundary
