import Boundary.Declaration.Writer

/-!
# Diagnostics

What is wrong with a list of declarations, all of it in one report.

* `Diagnostic`: one problem with its place and its subject.
* `Diagnostic.display`, `Diagnostic.render`: on one line, and for a terminal.
* `Report`: the problems of one run; `Report.render` ends with their number.
-/

namespace Boundary

open Json

/-- The kinds of problem. -/
inductive DiagnosticKind
  | unsupportedType
  | nameCollision
  | invalidReceiver
  | emptyEnum
  | duplicateDeclaration
  | invalidIdentifier
  | invalidTransfer
deriving Repr, DecidableEq

/-- All kinds of problem. -/
def DiagnosticKind.all : List DiagnosticKind :=
  [.unsupportedType, .nameCollision, .invalidReceiver, .emptyEnum, .duplicateDeclaration,
    .invalidIdentifier, .invalidTransfer]

/-- The name of a kind. -/
def DiagnosticKind.name : DiagnosticKind → String
  | .unsupportedType => "unsupported-type"
  | .nameCollision => "name-collision"
  | .invalidReceiver => "invalid-receiver"
  | .emptyEnum => "empty-enum"
  | .duplicateDeclaration => "duplicate-declaration"
  | .invalidIdentifier => "invalid-identifier"
  | .invalidTransfer => "invalid-transfer"

/-- A problem of a declaration. -/
structure Diagnostic where
  kind : DiagnosticKind
  location : Location
  /-- The path to the item in question, such as `Person.address`. -/
  subject : String
  message : String
deriving Repr, DecidableEq

/-- The problem on one line. -/
def Diagnostic.display (d : Diagnostic) : String :=
  s!"{d.location.display}: [{d.kind.name}] {d.subject}: {d.message}"

/-- How a part of a message for a terminal stands out. -/
inductive Emphasis
  | bold
  | boldRed
  | boldBlue
  | boldGreen
deriving DecidableEq

/-- The numbers that switch an emphasis on. -/
def Emphasis.code : Emphasis → String
  | .bold => "1"
  | .boldRed => "1;31"
  | .boldBlue => "1;34"
  | .boldGreen => "1;32"

/-- A part of a message that stands out if colours are wanted. -/
def Emphasis.style (e : Emphasis) (color : Bool) (text : String) : String :=
  if color then "\x1b[" ++ e.code ++ "m" ++ text ++ "\x1b[0m" else text

/-- The problem for a terminal. -/
def Diagnostic.render (color : Bool) (d : Diagnostic) : String :=
  Emphasis.boldRed.style color "error" ++ Emphasis.bold.style color "["
    ++ Emphasis.bold.style color d.kind.name ++ Emphasis.bold.style color "]:" ++ " " ++ d.message
    ++ "\n  " ++ Emphasis.boldBlue.style color "-->" ++ s!" {d.location.display} ({d.subject})"

/-- The problem as a value. -/
def Diagnostic.toValue (d : Diagnostic) : Value :=
  .object [("type", .string d.kind.name), ("location", d.location.toValue),
    ("subject", .string d.subject), ("message", .string d.message)]

/-- The problems of one run. -/
abbrev Report := List Diagnostic

/-- The report in one sentence. -/
def Report.display (r : Report) : String := s!"schema rejected with {r.length} diagnostic(s)"

/-- The report for a terminal. -/
def Report.render (color : Bool) (r : Report) : String :=
  String.join (r.map fun d => d.render color ++ "\n")
    ++ Emphasis.boldRed.style color "error" ++ ": " ++ r.display

/-- Whether there is a problem of that kind. -/
def Report.has (r : Report) (kind : DiagnosticKind) : Bool := r.any (·.kind = kind)

/-- The report as a value. -/
def Report.toValue (r : Report) : Value := .ofList (·.toValue) r

end Boundary
