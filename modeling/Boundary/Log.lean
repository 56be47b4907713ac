import Boundary.Text.Blank

/-!
# How much is logged

* `LogLevel`: the levels by name.
* `LogLevel.directive`: the directive in force. A level given on the command line wins over the
  environment, and warnings are shown if neither says anything.
-/

namespace Boundary

/-- The levels of logging. -/
inductive LogLevel
  | error
  | warn
  | info
  | debug
  | trace
deriving Repr, DecidableEq

/-- All levels. -/
def LogLevel.all : List LogLevel := [.error, .warn, .info, .debug, .trace]

/-- The name of a level. -/
def LogLevel.name : LogLevel → String
  | .error => "error"
  | .warn => "warn"
  | .info => "info"
  | .debug => "debug"
  | .trace => "trace"

/-- The level of that name. -/
def LogLevel.ofName? (name : String) : Option LogLevel := LogLevel.all.find? (·.name = name)

/-- The directive that is in force. -/
def LogLevel.directive (level : Option LogLevel) (environment : Option String) : String :=
  match level with
  | some level => level.name
  | none =>
    match (environment.map Text.trim).filter (· ≠ "") with
    | some directive => directive
    | none => LogLevel.warn.name

end Boundary
