/-!
# Errors of the console

## Main definitions

- `Error`: why an operation of the console failed
- `Error.message`: its wording
- `Error.isTransport`: whether the query failed to reach the daemon
-/

namespace QueryConsole

/-- Why an operation failed. Each carries the wording of its cause. -/
inductive Error
  /-- the exchange with the relay failed -/
  | http (cause : String)
  /-- an answer did not have the expected shape -/
  | serialization (cause : String)
  /-- reading or writing failed -/
  | io (cause : String)
  /-- the daemon answered that the query failed -/
  | daemon (message : String)
  /-- the operator's input was refused -/
  | invalidInput (reason : String)
  /-- the configuration cannot be used -/
  | config (reason : String)
  /-- anything else -/
  | other (text : String)
  deriving DecidableEq, Repr

/-- The wording of an error. -/
def Error.message : Error → String
  | .http cause => s!"HTTP request error: {cause}"
  | .serialization cause => s!"Serialization error: {cause}"
  | .io cause => s!"I/O error: {cause}"
  | .daemon message => message
  | .invalidInput reason => s!"Invalid input: {reason}"
  | .config reason => s!"Configuration error: {reason}"
  | .other text => text

/-- Whether the query did not reach the daemon, or its answer did not come back. -/
def Error.isTransport : Error → Bool
  | .http _ => true
  | .serialization _ => true
  | .io _ => true
  | _ => false

end QueryConsole
