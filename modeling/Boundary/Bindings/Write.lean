import Boundary.Bindings
import Boundary.Files.Access

/-!
# Writing bindings

Both sources are first written under other names beside their files, and only then take the places
of these. A file that is replaced is kept under a third name until both are in place, so that it
can be put back.

* `staging`, `backup`: the other names of a file.
* `stageAll`: writes the sources under their first names.
* `commit`, `commitAll`: puts them in their places.
* `Bindings.write`: writes both sources into a directory.
* `generate`: makes bindings and writes them.
-/

namespace Boundary

namespace Bindings

/-- The path under which the source of the file `p` is written first. -/
def staging (p : FilePath) : FilePath := p.sibling ".crossbind-tmp"

/-- The path under which an earlier file at `p` is kept. -/
def backup (p : FilePath) : FilePath := p.sibling ".crossbind-bak"

/-- A file that is in its place, at `path`, and whether it has `replaced` one. -/
structure Committed where
  path : FilePath
  replaced : Bool
deriving Repr, DecidableEq

variable {m : Type → Type} [Monad m] [FileAccess m]

open FileAccess

/-- Removes what has been written under the staging paths of the files `staged`. -/
def discard (staged : List FilePath) : m Unit := staged.forM fun p => attempt (remove (staging p))

/-- Writes the sources of the files, after those of the files in `staged`. -/
def stageAll (staged : List FilePath) : List (FilePath × String) → ExceptT OsError m Unit
  | [] => pure ()
  | (p, source) :: rest => do
    tryCatch (write (staging p) (Text.Utf8.encode source)) fun e => do
      discard (m := m) staged
      attempt (m := m) (remove (staging p))
      throw e
    stageAll (staged ++ [p]) rest

/-- Puts the source of the file `p` in its place. An earlier file goes to `backup p`. -/
def commit (p : FilePath) : ExceptT OsError m Committed := do
  let replaced ← (isFile p : m Bool)
  if replaced then move p (backup p)
  tryCatch (move (staging p) p) fun e => do
    if replaced then attempt (m := m) (move (backup p) p)
    throw e
  return ⟨p, replaced⟩

/-- Takes the files `committed` out of their places again, the last one first, and puts earlier ones
back. -/
def rollBack (committed : List Committed) : m Unit :=
  committed.reverse.forM fun c =>
    if c.replaced then attempt (move (backup c.path) c.path) else attempt (remove c.path)

/-- Puts the sources of the files in their places, after those in `committed`. If one cannot be
put in its place, none is; `all` are the files whose sources have been written. -/
def commitAll (all : List FilePath) (committed : List Committed) :
    List FilePath → ExceptT OsError m (List Committed)
  | [] => pure committed
  | p :: rest => do
    let c ← tryCatch (commit p) fun e => do
      rollBack (m := m) committed
      discard (m := m) all
      throw e
    commitAll all (committed ++ [c]) rest

/-- Removes the earlier files of those that are `committed`. -/
def removeBackups (committed : List Committed) : m Unit :=
  committed.forM fun c => if c.replaced then attempt (remove (backup c.path)) else pure ()

/-- The files of the bindings in the directory `out`, with their sources. -/
def targets (b : Bindings) (out : FilePath) (c : Config) : List (FilePath × String) :=
  [(out.join c.nativeFile, b.native), (out.join c.managedFile, b.managed)]

/-- Writes both sources into the directory `out`, and gives the paths of the files. -/
def write (b : Bindings) (out : FilePath) (c : Config) : ExceptT OsError m (List FilePath) := do
  createDirectories out
  let files := b.targets out c
  stageAll [] files
  let paths := files.map (·.1)
  let committed ← commitAll paths [] paths
  removeBackups (m := m) committed
  return paths

end Bindings

/-- Why `generate` fails. -/
inductive GenerateError
  | rejected (why : Rejection)
  | files (out : FilePath) (error : OsError)
deriving Repr

/-- The wording of a `GenerateError`. -/
def GenerateError.message : GenerateError → String
  | .rejected why => why.message
  | .files out e => s!"{out.text}: {e.message}"

variable {m : Type → Type} [Monad m] [FileAccess m]

/-- Makes the bindings of the declarations `ds` and writes them into the directory `out`. -/
def generate (ds : List Declaration) (c : Config) (out : FilePath) :
    ExceptT GenerateError m (List FilePath) := do
  match c.schema ds with
  | .error why => throw (.rejected why)
  | .ok s => ((s.bindings c).write out c).adapt (.files out)

end Boundary
