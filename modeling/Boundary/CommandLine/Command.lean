import Boundary.CommandLine.Option
import Boundary.Files.Path

/-!
# Commands

* `Command`: what a run is asked to do.
* `CommandName`: the commands by name, each with its grammar.
* `CommandLine.ofWords`: the command line that some words make up.
-/

namespace Boundary

/-- Where declarations come from. -/
structure InputSettings where
  /-- Paths and patterns. -/
  inputs : List String
  query : Option String
deriving Repr, DecidableEq

/-- Settings on a command line, which win over those of a configuration file. -/
structure ConfigSettings where
  file : Option FilePath := none
  libraryName : Option String := none
  symbolPrefix : Option String := none
  managedNamespace : Option String := none
  facade : Option String := none
  nativePath : Option String := none
  runtimePath : Option String := none
deriving Repr, DecidableEq

/-- The form of a report. -/
inductive ReportForm
  | text
  | json
deriving Repr, DecidableEq

/-- What a run does with the declarations. -/
inductive CommandAction
  /-- Writes bindings into a directory. -/
  | generate (out : FilePath) (form : ReportForm)
  /-- Only reports what is wrong. -/
  | check (form : ReportForm)
  /-- Prints the schema, or writes it into a file. -/
  | schema (out : Option FilePath)
  /-- Prints the bytes of a value. -/
  | encode (type value : String)
  /-- Prints the value of bytes. -/
  | decode (type hex : String)
deriving Repr, DecidableEq

/-- What a run is asked to do. -/
structure Command where
  input : InputSettings
  config : ConfigSettings
  action : CommandAction
deriving Repr, DecidableEq

namespace CommandLine

/-- The names of commands. -/
inductive CommandName
  | generate
  | check
  | schema
  | encode
  | decode
deriving Repr, DecidableEq

/-- The name of a command on the command line. -/
def CommandName.text : CommandName → String
  | .generate => "generate"
  | .check => "check"
  | .schema => "schema"
  | .encode => "encode"
  | .decode => "decode"

/-- The command of that name. -/
def CommandName.ofText? (s : String) : Option CommandName :=
  [.generate, .check, .schema, .encode, .decode].find? fun c : CommandName => c.text = s

/-- The options that all commands know. -/
def commonFlags : List Flag :=
  [.help, .logLevel, .query, .input, .config, .libraryName, .symbolPrefix, .managedNamespace,
    .facade, .nativePath, .runtimePath]

/-- The grammar of a command. -/
def CommandName.grammar : CommandName → Grammar
  | .generate => ⟨commonFlags ++ [.outDirectory, .diagnostics], [.input, .outDirectory], 0⟩
  | .check => ⟨commonFlags ++ [.diagnostics], [.input], 0⟩
  | .schema => ⟨commonFlags ++ [.outFile], [.input], 0⟩
  | .encode | .decode => ⟨commonFlags ++ [.typeName], [.input, .typeName], 1⟩

/-- The grammar of what stands before the command. -/
def rootGrammar : Grammar := ⟨[.help, .version, .logLevel], [], 0⟩

/-- The form of reports that is asked for. -/
def reportForm (given : Given) : ReportForm :=
  if given.value? .diagnostics = some "json" then .json else .text

/-- The action of a command with what is given. -/
def CommandName.action (name : CommandName) (given : Given) : CommandAction :=
  let type := (given.value? .typeName).getD ""
  let argument := given.arguments.headD ""
  match name with
  | .generate => .generate ⟨(given.value? .outDirectory).getD ""⟩ (reportForm given)
  | .check => .check (reportForm given)
  | .schema => .schema ((given.value? .outFile).map FilePath.mk)
  | .encode => .encode type argument
  | .decode => .decode type argument

/-- The command with what is given. -/
def CommandName.command (name : CommandName) (given : Given) : Command where
  input := ⟨given.values .input, given.value? .query⟩
  config := {
    file := (given.value? .config).map FilePath.mk
    libraryName := given.value? .libraryName
    symbolPrefix := given.value? .symbolPrefix
    managedNamespace := given.value? .managedNamespace
    facade := given.value? .facade
    nativePath := given.value? .nativePath
    runtimePath := given.value? .runtimePath }
  action := name.action given

/-- The level of logging that is asked for. -/
def logLevel? (given : Given) : Option LogLevel :=
  (given.value? .logLevel).bind LogLevel.ofName?

/-- What the words behind `help` ask for: the name of at most one command. -/
def helpOf : List String → UsageError
  | [] => .help
  | [name] => if name = "help" || (CommandName.ofText? name).isSome then .help else .unknownCommand
  | _ => .unknownCommand

/-- What follows the options before the command: nothing, or the command with its words. -/
def splitRoot (given : Given) :
    List String → Except UsageError (Given × Option (CommandName × List String))
  | [] => do return (← given.settle, none)
  | word :: rest => do
    if given.open_ then
      if word = "--" then trailing given rest
      else splitRoot (← rootGrammar.word given word) rest
    else if word = "help" then .error (helpOf rest)
    else
      match CommandName.ofText? word with
      | some name => return (given, some (name, rest))
      | none =>
        if word = "--" then trailing given rest
        else if word.startsWith "-" && word ≠ "-" then
          splitRoot (← rootGrammar.word given word) rest
        else .error .unknownCommand
where
  /-- Behind `--` no command is expected. -/
  trailing (given : Given) :
      List String → Except UsageError (Given × Option (CommandName × List String))
    | [] => do return (← given.settle, none)
    | word :: _ =>
      .error (if word = "help" || (CommandName.ofText? word).isSome then .unknownArgument
        else .unknownCommand)

end CommandLine

/-- A command line: the command, and the level of logging. -/
structure CommandLine where
  command : Command
  logLevel : Option LogLevel
deriving Repr, DecidableEq

/-- The command line that some words make up. A level of logging behind the command wins over one
before it. -/
def CommandLine.ofWords (words : List String) : Except CommandLine.UsageError CommandLine := do
  match ← splitRoot {} words with
  | (given, none) => .error (if given.flags.isEmpty then .helpOnMissing else .missingCommand)
  | (before, some (name, rest)) =>
    let given ← name.grammar.read rest
    let before ← before.settle
    return ⟨name.command given, (logLevel? given).or (logLevel? before)⟩

end Boundary
