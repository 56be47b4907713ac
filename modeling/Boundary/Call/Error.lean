import Boundary.Handle
import Boundary.Wire.Reader

/-!
# How calls end

A call succeeds, fails with an error of the native function, breaks the contract of the boundary,
or is aborted. Managed code learns which from a status.

* `CallError`, `Trap`: how a call ends other than by success.
* `CallCode`: the code of a status.
* `CallStatus.settle`: the status after a call.
-/

namespace Boundary

/-- What ends the body of a call early. -/
inductive CallError
  /-- The native function has failed; its error is serialized. -/
  | native (payload : List UInt8)
  | handle (error : HandleError)
  | utf8 (fault : Text.Utf8.Fault)
  | wire (error : WireError)
  | variantMismatch (enum variant : String)
deriving Repr, DecidableEq

/-- The wording of a call error. -/
def CallError.message : CallError → String
  | .native payload => s!"native error ({payload.length} encoded bytes)"
  | .handle e => e.message
  | .utf8 fault => s!"string argument is not valid UTF-8: {fault.message}"
  | .wire e => s!"failed to encode native error: {e.message}"
  | .variantMismatch enum variant =>
    s!"`{enum}::{variant}` accessor called on a value holding another variant"

/-- How a call ends other than by success. -/
inductive Trap
  | error (e : CallError)
  /-- The call was aborted, with a message if it left one. -/
  | abort (message : Option String)
deriving Repr, DecidableEq

/-- The codes of a status. -/
inductive CallCode
  | success
  | error
  | abort
  | contract
deriving Repr, DecidableEq

/-- The number of a code. -/
def CallCode.number : CallCode → Nat
  | .success => 0
  | .error => 1
  | .abort => 2
  | .contract => 3

/-- The code for the end of a call. -/
def Trap.code : Trap → CallCode
  | .error (.native _) => .error
  | .error _ => .contract
  | .abort _ => .abort

/-- The message of an aborted call that left none. -/
def defaultAbortMessage : String := "native code panicked"

/-- What is handed to managed code for the end of a call: the serialized error of the native
function, or a message. -/
def Trap.payload : Trap → List UInt8
  | .error (.native payload) => payload
  | .error e => Text.Utf8.encode e.message
  | .abort message => Text.Utf8.encode (message.getD defaultAbortMessage)

/-- The status of a call. -/
structure CallStatus where
  code : CallCode := .success
  /-- What the last failed call handed over, unless it has been fetched. -/
  errorBuffer : Option (List UInt8) := none
deriving Repr, DecidableEq

/-- The status after a call. Success leaves the buffer as it was. -/
def CallStatus.settle {α : Type} (s : CallStatus) : Except Trap α → CallStatus
  | .ok _ => { s with code := .success }
  | .error trap => ⟨trap.code, some trap.payload⟩

/-- The buffer, and the status without it. -/
def CallStatus.fetch (s : CallStatus) : Option (List UInt8) × CallStatus :=
  (s.errorBuffer, { s with errorBuffer := none })

/-- What a call returns, where `default` stands for every failure. -/
def callResult {α : Type} (default : α) : Except Trap α → α
  | .ok a => a
  | .error _ => default

end Boundary
