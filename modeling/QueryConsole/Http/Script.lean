import QueryConsole.Http.Wire

/-!
# Scripted servers

## Main definitions

- `Http.Reaction`: what a scripted server does with a query
- `Http.Script`: its reactions to each query in turn
- `Http.Script.endpoint`: the endpoint that follows a script
-/

namespace QueryConsole

namespace Http

/-- How much of its answer a scripted server gives. -/
inductive Completion
  | whole
  /-- the connection is closed before or within the answer -/
  | closed
  /-- the answer stops and the connection stays open -/
  | stalled
  deriving DecidableEq, Repr

/-- What a scripted server does with a query. -/
structure Reaction where
  status : Nat := 200
  body : List UInt8
  delay : Nat := 0
  completion : Completion := .whole
  deriving Repr

/-- The delivery that a reaction is. -/
def Reaction.delivery (r : Reaction) : Delivery :=
  match r.completion with
  | .whole => .answer r.delay ⟨r.status, [], r.body⟩
  | .closed => .broken r.delay
  | .stalled => .silence

/-- What a scripted server does with queries. -/
structure Script where
  /-- the reactions to some queries, in turn; the last one repeats -/
  reactions : List (List UInt8 × List Reaction)
  /-- the reaction to all other queries -/
  otherwise : Reaction
  deriving Repr

/-- The endpoint that follows a script. -/
def Script.endpoint (s : Script) : Endpoint := fun history query =>
  match s.reactions.lookup query with
  | none => s.otherwise.delivery
  | some reactions =>
    ((reactions[history.count query]? <|> reactions.getLast?).getD s.otherwise).delivery

end Http

end QueryConsole
