import QueryConsole.Http.Message

/-!
# The way to a server

A query is posted as the body of a request. What comes of it depends on the queries that were posted
before, on the server and on the connection: an answer after some time, a connection that breaks
after some time, or nothing for ever.

## Main definitions

- `Http.Delivery`: what a server does with a posted query
- `Http.Endpoint`: what a server does with every query, after every history
- `Http.Wire`: an endpoint and whether it can be reached
- `Http.Exchange`: what the sender sees, who waits only so long
-/

namespace QueryConsole

namespace Http

/-- What a server does with a posted query; times are in milliseconds from its arrival. -/
inductive Delivery
  /-- it answers in full -/
  | answer (after : Nat) (answer : Answer)
  /-- the connection breaks before the answer is complete -/
  | broken (after : Nat)
  /-- the answer never becomes complete, and the connection stays open -/
  | silence
  deriving DecidableEq, Repr

/-- The queries that a server received, in order. -/
abbrev History := List (List UInt8)

/-- What a server does with a query after those it received before. -/
abbrev Endpoint := History → List UInt8 → Delivery

/-- An endpoint, and whether it can be reached. -/
structure Wire where
  up : Bool
  endpoint : Endpoint

/-- Post a query. What cannot be reached receives nothing. -/
def Wire.post (w : Wire) (history : History) (query : List UInt8) : History × Delivery :=
  if w.up then (history ++ [query], w.endpoint history query) else (history, .broken 0)

/-- The queries among those posted that the endpoint received. -/
def Wire.received {α : Type} (w : Wire) (posted : List α) : List α :=
  if w.up then posted else []

/-- What the sender of a query sees. -/
inductive Exchange
  | answered (answer : Answer)
  /-- the connection could not be made, or broke -/
  | failed
  /-- no complete answer came in time -/
  | timedOut
  deriving DecidableEq, Repr

/-- What a sender sees who waits no longer than so many milliseconds. -/
def Delivery.within (timeout : Nat) : Delivery → Exchange
  | .answer after a => if after ≤ timeout then .answered a else .timedOut
  | .broken after => if after ≤ timeout then .failed else .timedOut
  | .silence => .timedOut

/-- The type under which queries are posted. -/
def queryType : String := "text/plain; charset=utf-8"

/-- How the console names what went wrong on the network. -/
def network : String := "<network>"

end Http

end QueryConsole
