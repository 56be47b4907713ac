import Boundary.Bindings.Write
import Boundary.CommandLine.Command
import Boundary.Datum.Json
import Boundary.Declaration.Load
import Boundary.Files.Glob
import Boundary.Schema.Writer
import Boundary.Text.Hex

/-!
# Running commands

* `ConfigSettings.override`, `ConfigSettings.resolve`: the configuration in force.
* `Schema.encodeText`, `Schema.decodeText`: bytes as hexadecimal digits from the text of a value,
  and a value from such digits.
* `CommandError`: why a command fails.
* `CommandOutcome`: what a command prints, and why it fails if it does.
* `Command.run`: runs a command.
-/

namespace Boundary

open Json

/-! ## Configuration -/

/-- Why there is no configuration. -/
inductive ConfigError
  | text (path : FilePath) (error : TextError)
  | document (path : FilePath) (error : PathError)
  | fault (fault : ConfigFault)
deriving Repr, DecidableEq

/-- The wording of an error, from the outside to the cause. -/
def ConfigError.chain : ConfigError → List String
  | .text p e => [s!"failed to read config file {p.text}: {e.message}", e.message]
  | .document p e =>
    let l := e.located
    [s!"invalid config file {p.text}: {l.display}", l.display, l.message]
  | .fault f => [f.message]

/-- The configuration with the settings that are given. -/
def ConfigSettings.override (s : ConfigSettings) (c : Config) : Config :=
  { c with
    libraryName := s.libraryName.getD c.libraryName
    symbolPrefix := s.symbolPrefix.or c.symbolPrefix
    managedNamespace := s.managedNamespace.or c.managedNamespace
    facade := s.facade.getD c.facade
    nativePath := s.nativePath.getD c.nativePath
    runtimePath := s.runtimePath.getD c.runtimePath }

/-- A configuration that can be used. -/
def Config.checked (c : Config) : Except ConfigError Config :=
  match c.fault? with
  | some f => .error (.fault f)
  | none => .ok c

/-- The configuration that is written in a text. -/
def Config.parse (path : FilePath) (text : String) : Except ConfigError Config := do
  ((Config.ofText text).mapError (ConfigError.document path)) >>= Config.checked

variable {m : Type → Type} [Monad m] [FileAccess m]

/-- The configuration of a file. -/
def Config.load (path : FilePath) : ExceptT ConfigError m Config := do
  let text ← (readText path).adapt (ConfigError.text path)
  Config.parse path text

/-- The configuration in force: that of the file, which has to be usable by itself, with the
settings that are given. -/
def ConfigSettings.resolve (s : ConfigSettings) : ExceptT ConfigError m Config := do
  let c ← match s.file with
    | some path => Config.load path
    | none => pure {}
  (s.override c).checked

/-! ## Values -/

/-- Why a value cannot be printed in another form. -/
inductive ValueError
  | notValue (error : ReadError)
  | datum (error : DatumError)
  | digit (c : Char)
  | oddDigits
deriving Repr

/-- The wording of an error, from the outside to the cause. -/
def ValueError.chain : ValueError → List String
  | .notValue e => ["value is not a JSON-encoded value", e.message]
  | .datum e => [e.message]
  | .digit c => [s!"`{c}` is not a hex digit"]
  | .oddDigits => ["hex input has an odd number of digits"]

/-- The bytes of a written value of the named type as hexadecimal digits. -/
def Schema.encodeText (s : Schema) (type text : String) : Except ValueError String := do
  let d ← (Datum.ofText text).mapError ValueError.notValue
  let bytes ← (s.encodeNamed type d).mapError ValueError.datum
  return Text.Hex.encode bytes

/-- The bytes of hexadecimal digits, between which blanks do not count. -/
def hexBytes (text : String) : Except ValueError (List UInt8) := do
  let digits ← (text.toList.filter (!Text.isBlank ·)).mapM fun c =>
    match Text.Hex.digitValue? c with
    | some d => Except.ok d
    | none => .error (ValueError.digit c)
  match Text.Hex.pack? digits with
  | some bytes => .ok bytes
  | none => .error .oddDigits

/-- The value of the named type whose bytes are written in hexadecimal digits. -/
def Schema.decodeText (s : Schema) (type text : String) : Except ValueError Datum := do
  let bytes ← hexBytes text
  (s.decodeNamed type bytes).mapError ValueError.datum

/-! ## Commands -/

/-- Why a command fails. -/
inductive CommandError
  | inputs (error : InputError)
  | load (error : LoadError)
  | config (error : ConfigError)
  /-- The declarations are rejected; `writes` tells whether files would have been written. -/
  | rejected (report : Report) (writes : Bool)
  | bindings (out : FilePath) (error : OsError)
  | directory (error : OsError)
  | schemaFile (out : FilePath) (error : OsError)
  | value (error : ValueError)
deriving Repr

/-- The wording of an error, from the outside to the cause. -/
def CommandError.chain : CommandError → List String
  | .inputs e => e.chain
  | .load e => e.chain
  | .config e => e.chain
  | .rejected r writes => [if writes then r.display ++ "; no files written" else r.display]
  | .bindings out e => [s!"writing bindings to {out.text}", e.message]
  | .directory e => [e.message]
  | .schemaFile out e => [s!"writing {out.text}", e.message]
  | .value e => e.chain

/-- The wording of an error on one line. -/
def CommandError.message (e : CommandError) : String := ": ".intercalate e.chain

/-- What a command prints, and why it fails if it does. -/
structure CommandOutcome where
  output : String := ""
  log : String := ""
  error : Option CommandError := none
deriving Repr

/-- The exit code of a command. -/
def CommandOutcome.exitCode (o : CommandOutcome) : Nat := if o.error.isSome then 1 else 0

/-- What is printed about declarations that are rejected. -/
def rejection (color : Bool) (form : ReportForm) (r : Report) (writes : Bool) : CommandOutcome :=
  match form with
  | .text => { log := r.render color ++ "\n", error := some (.rejected r writes) }
  | .json => { output := r.toValue.pretty ++ "\n", error := some (.rejected r writes) }

/-- The declarations that are asked for. -/
def InputSettings.load (s : InputSettings) : ExceptT CommandError m (List Declaration) := do
  let paths ← (inputPaths s.inputs).adapt CommandError.inputs
  (loadDeclarations s.query paths).adapt CommandError.load

/-- The form in which the report of a command is printed. -/
def CommandAction.reportForm : CommandAction → ReportForm
  | .generate _ form | .check form => form
  | _ => .text

/-- Whether a command is one of those that say that no files are written. -/
def CommandAction.writes : CommandAction → Bool
  | .encode .. | .decode .. => false
  | _ => true

/-- Writes a schema into a file. -/
def Schema.writeTo (s : Schema) (out : FilePath) : ExceptT CommandError m Unit := do
  match out.parent? with
  | some directory => (createDirectories directory).adapt CommandError.directory
  | none => pure ()
  (FileAccess.write out (Text.Utf8.encode s.toValue.pretty)).adapt (CommandError.schemaFile out)

/-- Does what is asked for with a schema. -/
def CommandAction.perform (a : CommandAction) (color : Bool) (s : Schema) (c : Config) :
    ExceptT CommandError m CommandOutcome := do
  match a with
  | .generate out _ =>
    let paths ← ((s.bindings c).write out c).adapt (CommandError.bindings out)
    let line (p : FilePath) := Emphasis.boldGreen.style color "wrote" ++ " " ++ p.text ++ "\n"
    return { log := String.join (paths.map line) }
  | .check _ =>
    let types := s.structs.length + s.enums.length
    return { log := Emphasis.boldGreen.style color "ok"
      ++ s!" {types} types, {s.functions.length} functions\n" }
  | .schema none => return { output := s.toValue.pretty ++ "\n" }
  | .schema (some out) => do
    s.writeTo out
    return {}
  | .encode type value =>
    let text ← (s.encodeText type value).mapError CommandError.value
    return { output := text ++ "\n" }
  | .decode type hex =>
    let d ← (s.decodeText type hex).mapError CommandError.value
    return { output := d.toValue.pretty ++ "\n" }

/-- Runs a command up to the first error. -/
def Command.perform (c : Command) (color : Bool) : ExceptT CommandError m CommandOutcome := do
  let ds ← c.input.load
  let config ← c.config.resolve.adapt CommandError.config
  match config.schema ds with
  | .error (.config f) => throw (.config (.fault f))
  | .error (.declarations r) => return rejection color c.action.reportForm r c.action.writes
  | .ok s => c.action.perform color s config

/-- Runs a command. -/
def Command.run (c : Command) (color : Bool) : m CommandOutcome := do
  match ← (c.perform color).run with
  | .ok outcome => return outcome
  | .error e => return { error := some e }

end Boundary
