import Mathlib.Data.UInt

/-!
# Errors

`Udpcap::Error` of `error.h`: a code and a message.

## Main definitions

* `Error`, `Error.toText` — an error and its description.
* `Error.assignCode` — assigning a bare code, which keeps the message.
-/

namespace Udpcap

inductive ErrorCode
  | ok
  | genericError
  | npcapNotInitialized
  | notBound
  | timeout
  | socketClosed
  deriving DecidableEq, Repr

structure Error where
  errorCode : ErrorCode
  message : String
  deriving DecidableEq, Repr

namespace Error

/-- `Error(ErrorCode)` -/
def ofCode (code : ErrorCode) : Error := ⟨code, ""⟩

def getDescription (e : Error) : String :=
  match e.errorCode with
  | .ok => "OK"
  | .genericError => "Error"
  | .npcapNotInitialized => "Npcap not initialized"
  | .notBound => "Socket not bound"
  | .timeout => "Timeout"
  | .socketClosed => "Socket closed"

/-- `ToString` -/
def toText (e : Error) : String :=
  if e.message = "" then e.getDescription else e.getDescription ++ " (" ++ e.message ++ ")"

/-- `operator=(ErrorCode)`: the message of the previous error stays. -/
def assignCode (e : Error) (code : ErrorCode) : Error := { e with errorCode := code }

end Error

end Udpcap
