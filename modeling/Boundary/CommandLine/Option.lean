import Boundary.Log

/-!
# Options of the command line

* `Flag`: the options with their names.
* `ValueForm`: which values an option takes.
* `Grammar`: the options and arguments that a command knows.
* `UsageError`: why a command line is not understood, or that help is asked for.
* `Grammar.read`: what is given on a command line.
-/

namespace Boundary.CommandLine

/-- The options. -/
inductive Flag
  | help
  | version
  | logLevel
  | query
  | input
  | config
  | libraryName
  | symbolPrefix
  | managedNamespace
  | facade
  | nativePath
  | runtimePath
  | outDirectory
  | diagnostics
  | outFile
  | typeName
deriving Repr, DecidableEq

/-- The name of an option behind two hyphens. -/
def Flag.long : Flag → String
  | .help => "help"
  | .version => "version"
  | .logLevel => "log-level"
  | .query => "jq-expr"
  | .input => "input"
  | .config => "config"
  | .libraryName => "library-name"
  | .symbolPrefix => "symbol-prefix"
  | .managedNamespace => "namespace"
  | .facade => "facade-class"
  | .nativePath => "native-crate-path"
  | .runtimePath => "runtime-crate-path"
  | .outDirectory => "out-dir"
  | .diagnostics => "diagnostics"
  | .outFile => "out"
  | .typeName => "type"

/-- The letter of an option behind one hyphen. -/
def Flag.short? : Flag → Option Char
  | .help => some 'h'
  | .version => some 'V'
  | .input => some 'i'
  | .outDirectory | .outFile => some 'o'
  | _ => none

/-- The forms in which diagnostics are reported. -/
def reportForms : List String := ["text", "json"]

/-- Which values an option takes. -/
inductive ValueForm
  | none
  | text
  /-- A path, which is not empty. -/
  | path
  | choice (names : List String)
deriving Repr, DecidableEq

/-- Which values an option takes. -/
def Flag.form : Flag → ValueForm
  | .help | .version => .none
  | .logLevel => .choice (LogLevel.all.map (·.name))
  | .diagnostics => .choice reportForms
  | .config | .outDirectory | .outFile => .path
  | _ => .text

/-- Whether a value is of the form. -/
def ValueForm.accepts (form : ValueForm) (value : String) : Bool :=
  match form with
  | .none => false
  | .text => true
  | .path => value ≠ ""
  | .choice names => names.contains value

/-- Whether an option takes any number of values, and may be given any number of times. -/
def Flag.isList (f : Flag) : Bool := f = .input

/-- The options and arguments that a command knows. -/
structure Grammar where
  flags : List Flag
  required : List Flag
  /-- How many arguments the command takes; all of them are required. -/
  arguments : Nat
deriving Repr, DecidableEq

/-- Why a command line is not understood, or that help or the version is asked for. -/
inductive UsageError
  | help
  | version
  | helpOnMissing
  | missingCommand
  | unknownCommand
  | unknownArgument
  | missingArgument
  | invalidValue
  | tooManyValues
  | repeated
deriving Repr, DecidableEq

/-- The exit code: nothing is wrong if help or the version is asked for. -/
def UsageError.exitCode : UsageError → Nat
  | .help | .version => 0
  | _ => 2

/-! ## Reading -/

/-- What has been read of a command line. -/
structure Given where
  /-- The options with their values, in order. -/
  flags : List (Flag × List String) := []
  arguments : List String := []
  /-- The last option, as long as it may get further values. -/
  pending : Option (Flag × List String) := none
  /-- Whether the next word is a value of the last option. -/
  open_ : Bool := false
deriving Repr, DecidableEq

/-- The values of an option. -/
def Given.values (g : Given) (f : Flag) : List String :=
  (g.flags.filter (·.1 = f)).flatMap (·.2)

/-- The value of an option that is given at most once. -/
def Given.value? (g : Given) (f : Flag) : Option String := (g.values f).head?

/-- Whether an option is given. -/
def Given.has (g : Given) (f : Flag) : Bool := g.flags.any (·.1 = f)

/-- Adds an option with its values. -/
def Given.add (g : Given) (f : Flag) (values : List String) : Except UsageError Given :=
  if values.isEmpty then .error .invalidValue
  else if !f.isList && g.has f then .error .repeated
  else if values.all f.form.accepts then
    .ok { g with flags := g.flags ++ [(f, values)], pending := none, open_ := false }
  else .error .invalidValue

/-- Adds the last option with the values that it got. -/
def Given.settle (g : Given) : Except UsageError Given :=
  match g.pending with
  | some (f, values) => { g with pending := none }.add f values
  | none => .ok g

/-- An option, with the value that is attached to it. -/
def Given.flag (g : Given) (f : Flag) (attached : Option String) : Except UsageError Given := do
  match f.form, attached with
  | .none, some _ => .error .tooManyValues
  | .none, none =>
    let _ ← g.settle
    .error (if f = .version then .version else .help)
  | _, some value => (← g.settle).add f [value]
  | _, none => return { ← g.settle with pending := some (f, []), open_ := true }

/-- A value for the last option. -/
def Given.push (g : Given) (value : String) : Given :=
  match g.pending with
  | some (f, values) => { g with pending := some (f, values ++ [value]), open_ := f.isList }
  | none => g

/-- The name and the attached value of a word behind two hyphens. -/
def longParts (cs : List Char) : String × Option String :=
  match cs.dropWhile (· ≠ '=') with
  | [] => (String.ofList cs, none)
  | _ :: value => (String.ofList (cs.takeWhile (· ≠ '=')), some (String.ofList value))

/-- The value that is attached to a letter, with or without a sign between them. -/
def attachedValue? : List Char → Option String
  | [] => none
  | '=' :: value => some (String.ofList value)
  | value => some (String.ofList value)

/-- A word that is an argument. -/
def Grammar.argument (g : Grammar) (given : Given) (word : String) : Except UsageError Given := do
  if given.arguments.length < g.arguments then
    let given ← given.settle
    return { given with arguments := given.arguments ++ [word], open_ := false }
  else .error .unknownArgument

/-- A word that is not behind `--`. -/
def Grammar.word (g : Grammar) (given : Given) (word : String) : Except UsageError Given :=
  match word.toList with
  | '-' :: '-' :: cs =>
    let (name, attached) := longParts cs
    match g.flags.find? (·.long = name) with
    | some f => given.flag f attached
    | none => .error .unknownArgument
  | '-' :: c :: cs =>
    match g.flags.find? (·.short? = some c) with
    | some f =>
      if f.form = .none then given.flag f none else given.flag f (attachedValue? cs)
    | none => .error .unknownArgument
  | _ => if given.open_ then .ok (given.push word) else g.argument given word

/-- What is given in some words. Behind `--` all of them are arguments. -/
def Grammar.words (g : Grammar) (given : Given) : List String → Except UsageError Given
  | [] => given.settle
  | "--" :: rest => do (← rest.foldlM g.argument given).settle
  | word :: rest => do g.words (← g.word given word) rest

/-- What is given on a command line that lacks nothing. -/
def Grammar.read (g : Grammar) (words : List String) : Except UsageError Given := do
  let given ← g.words {} words
  if g.required.all given.has && given.arguments.length = g.arguments then return given
  else .error .missingArgument

end Boundary.CommandLine
