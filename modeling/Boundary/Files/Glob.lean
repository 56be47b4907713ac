import Boundary.Files.Access
import Boundary.Files.Pattern

/-!
# Files by pattern

A pattern of paths consists of a pattern for each name on the way, and `**` stands for any number of
directories.

* `GlobPart`: the pattern of a name.
* `Glob.parse`: the parts of a pattern of paths.
* `Glob.paths`: the paths that are of the form of a pattern.
* `InputError`, `inputPaths`: the files that are named on a command line, by path or by pattern.
-/

namespace Boundary

/-- The pattern of a name. -/
inductive GlobPart
  | literal (name : String)
  /-- Any number of directories. -/
  | anyPath
  | pattern (tokens : List PatternToken)
deriving Repr, DecidableEq

/-- Whether a name is of the form of a part. -/
def GlobPart.accepts (part : GlobPart) (name : String) : Bool :=
  match part with
  | .literal s => s = name
  | .anyPath => true
  | .pattern tokens => Pattern.accepts tokens name.toList

/-- The pattern of paths. -/
structure Glob where
  parts : List GlobPart
  absolute : Bool
  /-- Whether only directories are wanted. -/
  directories : Bool
deriving Repr, DecidableEq

namespace Glob

/-- The part that some tokens make up. -/
def partOf (tokens : List PatternToken) : GlobPart :=
  match Pattern.literal? tokens with
  | some name => .literal name
  | none => if tokens.contains .anyPath then .anyPath else .pattern tokens

/-- The parts of a text between slashes, without an empty last one. -/
def texts (s : String) : List String :=
  let parts := Text.split '/' s
  if parts.getLast? = some "" then parts.dropLast else parts

/-- The parts of a pattern. The pattern as a whole has to be well formed as well as its parts. -/
def parse (s : String) : Except PatternError Glob := do
  let _ ← Pattern.parse s
  let absolute := s.startsWith "/"
  let below := if absolute then (s.drop 1).toString else s
  let parts ← (texts below).mapM fun part => do return partOf (← Pattern.parse part)
  return ⟨parts, absolute, s.endsWith "/"⟩

/-- The path of something in a directory, where the working directory is not mentioned. -/
def child (directory : FilePath) (name : String) : FilePath :=
  if directory.components = [.here] then ⟨name⟩ else directory.join name

variable {m : Type → Type} [Monad m] [FileAccess m]

open FileAccess

/-- The paths in a directory. -/
def children (directory : FilePath) : m (List FilePath) := do
  if ← isDirectory directory then return (← names directory).map (child directory) else return []

/-- Everything below a directory to a depth of `n`. -/
def below : Nat → FilePath → m (List FilePath)
  | 0, _ => pure []
  | n + 1, directory => do
    let found ← children directory
    let deeper ← found.mapM (below n)
    return found ++ deeper.flatten

/-- More names than the longest path of an operating system has. -/
def depthMax : Nat := 4096

/-- The special directories whose name is of the form of a pattern that starts with a point. -/
def specials (directory : FilePath) (tokens : List PatternToken) : List FilePath :=
  if tokens.head? = some (.char '.') then
    (["..", "."].filter fun s => Pattern.accepts tokens s.toList).map directory.join
  else []

/-- The paths below a directory that are of the form of the parts. After `**` a part describes the
name of anything below. -/
def expand : List GlobPart → FilePath → m (List FilePath)
  | [], p => pure [p]
  | .literal name :: rest, directory => do
    let p := child directory name
    let there ←
      if name = "." || name = ".." then isDirectory directory
      else isThere p
    if there then expand rest p else pure []
  | .pattern tokens :: rest, directory => do
    let named := (← children directory).filter fun p =>
      (p.name?.map fun name => Pattern.accepts tokens name.toList).getD false
    let special := if ← isDirectory directory then specials directory tokens else []
    return (← (named ++ special).mapM (expand rest)).flatten
  | [.anyPath], directory => do (← below depthMax directory).filterM isDirectory
  | .anyPath :: .anyPath :: rest, directory => expand (.anyPath :: rest) directory
  | .anyPath :: part :: rest, directory => do
    let named := (← below depthMax directory).filter fun p =>
      (p.name?.map part.accepts).getD false
    return (← named.mapM (expand rest)).flatten

/-- The paths that are of the form of a pattern. -/
def paths (g : Glob) : m (List FilePath) := do
  let found ← expand g.parts ⟨if g.absolute then "/" else "."⟩
  if g.directories then found.filterM isDirectory else return found

end Glob

/-! ## Inputs -/

/-- Why the inputs on a command line name no files. -/
inductive InputError
  | badPattern (pattern : String) (error : PatternError)
  | noMatch (pattern : String)
deriving Repr, DecidableEq

/-- The wording of an error, from the outside to the cause. -/
def InputError.chain : InputError → List String
  | .badPattern pattern e => [s!"bad glob pattern: {pattern}", e.message]
  | .noMatch pattern => [s!"glob pattern matched no files: {pattern}"]

/-- Whether a text is a pattern and not a path. -/
def isPattern (s : String) : Bool := s.toList.any fun c => ['*', '?', '[', '\x7b'].contains c

/-- A list of paths with the path at its end, unless there is the same already. -/
def withPath (paths : List FilePath) (p : FilePath) : List FilePath :=
  if paths.any p.same then paths else paths ++ [p]

variable {m : Type → Type} [Monad m] [FileAccess m]

/-- The files that a path or a pattern names. Those of a pattern come in the order of paths. -/
def namedFiles (input : String) : ExceptT InputError m (List FilePath) := do
  if !isPattern input then return [⟨input⟩]
  match Glob.parse input with
  | .error e => throw (.badPattern input e)
  | .ok glob =>
    let found ← (glob.paths : m (List FilePath))
    if found.isEmpty then throw (.noMatch input)
    return found.mergeSort FilePath.le

/-- The files that are named on a command line, each of them once. -/
def inputPaths (inputs : List String) : ExceptT InputError m (List FilePath) := do
  return (← inputs.mapM namedFiles).flatten.foldl withPath []

end Boundary
