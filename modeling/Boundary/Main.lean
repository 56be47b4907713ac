import Boundary.CommandLine.Run

/-!
# The command line

Runs a command on the files of the disk. Everything that is decided is decided in
`Boundary.CommandLine.Run`.
-/

namespace Boundary

/-- What the system reports, as an error of an operation on files. -/
def OsError.ofSystem (e : IO.Error) : OsError :=
  match e with
  | .noFileOrDirectory .. => .notFound
  | .alreadyExists .. => .alreadyExists
  | .resourceBusy .. => .busy
  | .inappropriateType _ 20 _ => .notDirectory
  | .inappropriateType _ 21 _ => .isDirectory
  | .invalidArgument _ 40 _ => .linkLoop
  | .permissionDenied _ code reason => .other reason code.toNat
  | e => .other e.toString 0

/-- An operation on the disk. -/
def onDisk {α : Type} (action : IO α) : ExceptT OsError IO α :=
  ExceptT.mk do
    try
      return .ok (← action)
    catch e => return .error (.ofSystem e)

/-- The operations on the files of the disk. -/
instance : FileAccess IO where
  kind? p := do
    try
      match (← (System.mkFilePath [p.text]).metadata).type with
      | .dir => return some .directory
      | .file => return some .file
      | _ => return none
    catch _ => return none
  isThere p := do
    try
      let _ ← (System.mkFilePath [p.text]).symlinkMetadata
      return true
    catch _ => return false
  names p := do return (← (System.mkFilePath [p.text]).readDir).toList.map (·.fileName)
  read p := onDisk do return (← IO.FS.readBinFile p.text).toList
  write p bytes := onDisk (IO.FS.writeBinFile p.text ⟨bytes.toArray⟩)
  makeDirectory p := onDisk (IO.FS.createDir p.text)
  move p q := onDisk (IO.FS.rename p.text q.text)
  remove p := onDisk (IO.FS.removeFile p.text)

/-- How the program is used. -/
def usage : String :=
  "usage: crossbind <generate|check|schema|encode|decode> --input <file>... [options]"

end Boundary

open Boundary

/-- Runs the command that the arguments ask for. -/
def main (args : List String) : IO UInt32 := do
  match CommandLine.ofWords args with
  | .error .version =>
    IO.println "crossbind 0.1.0"
    return 0
  | .error e =>
    if e.exitCode = 0 then IO.println usage else IO.eprintln usage
    return UInt32.ofNat e.exitCode
  | .ok line =>
    let outcome ← (line.command.run false : IO CommandOutcome)
    IO.print outcome.output
    IO.eprint outcome.log
    match outcome.error with
    | some e => IO.eprintln s!"error: {e.message}"
    | none => pure ()
    return UInt32.ofNat outcome.exitCode
