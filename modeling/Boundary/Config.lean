import Boundary.Json.ReadNode
import Boundary.Naming
import Boundary.Schema.Names
import Boundary.Text.Blank
import Boundary.Text.Split

/-!
# Configuration

How the library and the generated files are named.

* `Config`: the settings; what is not given is derived from the name of the library.
* `Config.fault?`: the first setting that cannot be used.
* `Config.ofText`: the settings written in a document. What stands behind the document does not
  count.
* `Config.toValue`: the settings as a JSON value.
-/

namespace Boundary

open Json

/-- The settings of a run. -/
structure Config where
  /-- The name of the shared library that managed code loads. -/
  libraryName : String := "native"
  /-- What every symbol starts with; derived from the name of the library if not given. -/
  symbolPrefix : Option String := none
  /-- The managed namespace; derived from the name of the library if not given. -/
  managedNamespace : Option String := none
  /-- The class of the free functions. -/
  facade : String := defaultFacade
  /-- The path under which native code finds the declared items. -/
  nativePath : String := "crate"
  /-- The path of the support library. -/
  runtimePath : String := "::crossbind_runtime"
  nativeFile : String := "bindings.rs"
  managedFile : String := "Bindings.cs"
deriving Repr, DecidableEq, Inhabited

/-- What every symbol starts with, under the settings `c`. -/
def Config.symbols (c : Config) : String := c.symbolPrefix.getD (Naming.snake c.libraryName)

/-- The managed namespace in use, under the settings `c`. -/
def Config.space (c : Config) : String := c.managedNamespace.getD (Naming.pascal c.libraryName)

/-! ## Validity -/

/-- Why a setting cannot be used. -/
inductive ConfigFault
  | emptyLibraryName
  | symbolPrefix (start : String)
  | managedNamespace (space : String)
  | facade (name : String)
  | nativeFile (name : String)
  | managedFile (name : String)
  | sameFile
deriving Repr, DecidableEq

/-- The name of the setting that cannot be used. -/
def ConfigFault.field : ConfigFault → String
  | .emptyLibraryName => "library_name"
  | .symbolPrefix _ => "symbol_prefix"
  | .managedNamespace _ => "namespace"
  | .facade _ => "facade_class"
  | .nativeFile _ => "native_file_name"
  | .managedFile _ | .sameFile => "managed_file_name"

/-- Why the setting cannot be used, in words. -/
def ConfigFault.reason : ConfigFault → String
  | .emptyLibraryName => "must not be empty"
  | .symbolPrefix start => s!"`{start}` is not a valid symbol prefix"
  | .managedNamespace space => s!"`{space}` is not a valid namespace"
  | .facade name => s!"`{name}` is not a valid identifier"
  | .nativeFile name | .managedFile name => s!"`{name}` must be a plain file name"
  | .sameFile => "must differ from `native_file_name`"

/-- The wording of the fault `f`. -/
def ConfigFault.message (f : ConfigFault) : String := s!"config field `{f.field}`: {f.reason}"

/-- Whether symbols may start with `start`. -/
def isSymbolPrefix (start : String) : Bool :=
  Naming.isIdentifier start && !start.startsWith "r#"

/-- Whether `space` is a list of identifiers with points between them. -/
def isNamespace (space : String) : Bool := (Text.split '.' space).all Naming.isIdentifier

/-- Whether `name` is a file name without directories. -/
def isFileName (name : String) : Bool :=
  !name.isEmpty && name.toList.all fun c => c ≠ '/' && c ≠ '\\'

/-- The first setting of `c` that cannot be used. -/
def Config.fault? (c : Config) : Option ConfigFault :=
  if (Text.trim c.libraryName).isEmpty then some .emptyLibraryName
  else if !isSymbolPrefix c.symbols then some (.symbolPrefix c.symbols)
  else if !isNamespace c.space then some (.managedNamespace c.space)
  else if !Naming.isIdentifier c.facade then some (.facade c.facade)
  else if !isFileName c.nativeFile then some (.nativeFile c.nativeFile)
  else if !isFileName c.managedFile then some (.managedFile c.managedFile)
  else if c.nativeFile = c.managedFile then some .sameFile
  else none

/-! ## Documents -/

/-- The settings by their names in a document. -/
def Config.fields : List (NodeField Config) := [
  ⟨"library_name", fun c n => n.string.map fun libraryName => { c with libraryName }⟩,
  ⟨"symbol_prefix", fun c n => n.string?.map fun symbolPrefix => { c with symbolPrefix }⟩,
  ⟨"namespace", fun c n => n.string?.map fun managedNamespace => { c with managedNamespace }⟩,
  ⟨"facade_class", fun c n => n.string.map fun facade => { c with facade }⟩,
  ⟨"native_crate_path", fun c n => n.string.map fun nativePath => { c with nativePath }⟩,
  ⟨"runtime_crate_path", fun c n => n.string.map fun runtimePath => { c with runtimePath }⟩,
  ⟨"native_file_name", fun c n => n.string.map fun nativeFile => { c with nativeFile }⟩,
  ⟨"managed_file_name", fun c n => n.string.map fun managedFile => { c with managedFile }⟩]

/-- The settings written in the document `s`. -/
def Config.ofText (s : String) : Except PathError Config :=
  (Node.ofTokens (Tokens.ofText s)).1.record "struct GeneratorConfig" Config.fields {}

/-- The settings `c` as a JSON value. -/
def Config.toValue (c : Config) : Value :=
  .object [
    ("library_name", .string c.libraryName), ("symbol_prefix", .ofOption .string c.symbolPrefix),
    ("namespace", .ofOption .string c.managedNamespace), ("facade_class", .string c.facade),
    ("native_crate_path", .string c.nativePath), ("runtime_crate_path", .string c.runtimePath),
    ("native_file_name", .string c.nativeFile), ("managed_file_name", .string c.managedFile)]

end Boundary
