import QueryConsole.Http.Wire
import QueryConsole.Json.Decode
import QueryConsole.Live.Slot

/-!
# Sending queries to a server

## Main definitions

- `Http.Client`: where queries are sent, and how long an answer may take
- `Http.Client.read`: the outcome that an exchange means
- `Http.Client.send`, `Http.Client.sendAll`: the outcomes of queries
-/

namespace QueryConsole

namespace Http

/-- Where queries are sent, and how many milliseconds an answer may take. -/
structure Client where
  url : String
  timeout : Nat
  deriving DecidableEq, Repr

namespace Client

/-- How long an answer of the web server may take. -/
def defaultTimeout : Nat := 15000

/-- The outcome that an exchange means. The status of an answer does not matter; a body that does
not decode counts as no answer. -/
def read : Exchange → Outcome
  | .answered a =>
    match Json.decode? a.body with
    | some v => .ok (.discriminate v)
    | none => .error (.http network)
  | .failed => .error (.http network)
  | .timedOut => .error (.http network)

/-- Send a query. -/
def send (c : Client) (wire : Wire) (history : History) (query : String) : History × Outcome :=
  let (history, delivery) := wire.post history (Utf8.bytesOf query)
  (history, read (delivery.within c.timeout))

/-- The outcome of a query that is sent after some others. -/
def outcome (c : Client) (wire : Wire) (sent : List String) (query : String) : Outcome :=
  (c.send wire (sent.map Utf8.bytesOf) query).2

/-- The outcomes of queries sent one after another. -/
def sendAll (c : Client) (wire : Wire) (history : History) :
    List String → History × List Outcome
  | [] => (history, [])
  | query :: rest =>
    let (history, outcome) := c.send wire history query
    let (history, outcomes) := c.sendAll wire history rest
    (history, outcome :: outcomes)

end Client

end Http

end QueryConsole
