import Boundary.Files.Path
import Boundary.Text.Utf8

/-!
# Access to files

What a run needs of a file system. Everything that reads or writes files is stated over these
operations, so that it can be run on a tree in memory as well as on a disk.

* `OsError`: why an operation fails.
* `FileAccess`: the operations.
* `createDirectories`: makes a directory and all that lead to it.
* `readText`: the text of a file.
-/

namespace Boundary

/-- Why an operation on files fails. -/
inductive OsError
  | notFound
  | busy
  | alreadyExists
  | notDirectory
  | isDirectory
  /-- More symbolic links than a path may lead through. -/
  | linkLoop
  /-- A cause that no tree of files in memory has. -/
  | other (reason : String) (code : Nat)
deriving Repr, DecidableEq

/-- What an `OsError` says is wrong. -/
def OsError.reason : OsError → String
  | .notFound => "No such file or directory"
  | .busy => "Device or resource busy"
  | .alreadyExists => "File exists"
  | .notDirectory => "Not a directory"
  | .isDirectory => "Is a directory"
  | .linkLoop => "Too many levels of symbolic links"
  | .other reason _ => reason

/-- The number of an `OsError`. -/
def OsError.code : OsError → Nat
  | .notFound => 2
  | .busy => 16
  | .alreadyExists => 17
  | .notDirectory => 20
  | .isDirectory => 21
  | .linkLoop => 40
  | .other _ code => code

/-- The wording of the error `e`, with its number. -/
def OsError.message (e : OsError) : String := s!"{e.reason} (os error {e.code})"

/-- What a path leads to. -/
inductive FileKind
  | file
  | directory
deriving Repr, DecidableEq

/-- The operations on files. One that fails changes nothing. A symbolic link at the end of a path is
followed by `kind?`, `names`, `read` and `write`, and is itself what the others are about. -/
class FileAccess (m : Type → Type) where
  /-- What a path leads to, if to anything. -/
  kind? : FilePath → m (Option FileKind)
  /-- Whether there is anything at a path, be it a link that leads nowhere. -/
  isThere : FilePath → m Bool
  /-- The names in a directory. -/
  names : FilePath → m (List String)
  /-- The bytes of a file. -/
  read : FilePath → ExceptT OsError m (List UInt8)
  /-- Gives a file the bytes, whether there was one before or not. -/
  write : FilePath → List UInt8 → ExceptT OsError m Unit
  /-- Makes a directory in an existing one. -/
  makeDirectory : FilePath → ExceptT OsError m Unit
  /-- Gives a file or a link another path, where it takes the place of what was there. -/
  move : FilePath → FilePath → ExceptT OsError m Unit
  /-- Removes a file or a link. -/
  remove : FilePath → ExceptT OsError m Unit

variable {m : Type → Type} [Monad m] [FileAccess m]

open FileAccess

/-- Whether a path leads to a directory. -/
def isDirectory (p : FilePath) : m Bool := do return (← kind? p) = some .directory

/-- Whether a path leads to a file. -/
def isFile (p : FilePath) : m Bool := do return (← kind? p) = some .file

/-- Does `action`, where it does not matter whether it fails. -/
def attempt {α : Type} (action : ExceptT OsError m α) : m Unit := do let _ ← action.run

/-- Makes the directory `p`, where it does not matter whether there is one. -/
def ensureDirectory (p : FilePath) : ExceptT OsError m Unit :=
  tryCatch (makeDirectory p) fun e => do
    if ← (isDirectory p : m Bool) then pure () else throw e

/-- Makes a directory and all that lead to it, of which at most `n` are missing. -/
def createAtMost : Nat → FilePath → ExceptT OsError m Unit
  | 0, p => ensureDirectory p
  | n + 1, p =>
    if p.text = "" then pure ()
    else
      tryCatch (ensureDirectory p) fun e => do
        if e = .notFound then
          createAtMost n (p.parent?.getD ⟨""⟩)
          ensureDirectory p
        else throw e

/-- Makes the directory `p` and all that lead to it. -/
def createDirectories (p : FilePath) : ExceptT OsError m Unit :=
  createAtMost (p.components.length + 1) p

/-! ## Texts -/

/-- Why `readText` fails. -/
inductive TextError
  | os (error : OsError)
  | notUtf8
deriving Repr, DecidableEq

/-- The wording of a `TextError`. -/
def TextError.message : TextError → String
  | .os e => e.message
  | .notUtf8 => "stream did not contain valid UTF-8"

/-- The text of the file at `p`. -/
def readText (p : FilePath) : ExceptT TextError m String := do
  let bytes ← (read p).adapt .os
  match Text.Utf8.decode bytes with
  | .ok s => pure s
  | .error _ => throw .notUtf8

end Boundary
