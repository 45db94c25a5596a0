import QueryConsole.Http.Wire
import QueryConsole.Json.Check
import QueryConsole.Json.Encode
import QueryConsole.Text.Span

/-!
# Relaying queries to the daemon

A query is posted to the daemon once. What comes back is passed on unchanged if it is JSON; all
else becomes an error that the console can read.

## Main definitions

- `Http.Relay.Fault`: why there is nothing to pass on
- `Http.Relay.check`: what is passed on of an exchange
- `Http.Relay.respond`: the answer to a query
-/

namespace QueryConsole

namespace Http

namespace Relay

/-- Why there is no daemon answer to pass on. -/
inductive Fault
  /-- none came within so many milliseconds -/
  | timeout (ms : Nat)
  | unreachable (cause : String)
  | malformed (cause : String)
  deriving DecidableEq, Repr

/-- The wording of a fault. -/
def Fault.message : Fault → String
  | .timeout ms => s!"Daemon did not answer within {Text.span ms}"
  | .unreachable cause => s!"Daemon unreachable: {cause}"
  | .malformed cause => s!"Daemon returned a malformed response: {cause}"

/-- The type of what is passed on. -/
def jsonType : String := "application/json"

/-- The answer that tells the console about a fault. -/
def Fault.answer (f : Fault) : Answer :=
  .content 500 jsonType (Utf8.bytesOf
    (Json.object [("status", .text "error"), ("message", .text f.message)]).render)

/-- The status and the body that are passed on: those of a daemon answer whose body is JSON. -/
def check (timeout : Nat) : Exchange → Except Fault (Nat × List UInt8)
  | .answered a =>
    match Json.check a.body with
    | .ok _ => .ok (a.status, a.body)
    | .error f => .error (.malformed s!"body is not JSON ({f.message a.body})")
  | .failed => .error (.unreachable network)
  | .timedOut => .error (.timeout timeout)

/-- The answer to a query. -/
def answerOf (timeout : Nat) (e : Exchange) : Answer :=
  match check timeout e with
  | .ok (status, body) => .content status jsonType body
  | .error f => f.answer

/-- Forward a query to the daemon, which may take so many milliseconds, and answer it. -/
def respond (wire : Wire) (timeout : Nat) (history : History) (query : List UInt8) :
    History × Answer :=
  let (history, delivery) := wire.post history query
  (history, answerOf timeout (delivery.within timeout))

end Relay

end Http

end QueryConsole
