import QueryConsole.Session.Basic

/-!
# Runs of a session

Any number of calls may be under way at once, and the pollers of the live view go about their own
business. A run interleaves them in any order; what happens carries the mark of its cause.

## Main definitions

- `Session.Run`: a session and the calls that wait
- `Session.Move`: what can happen next
- `Session.Event`: what others can see of it, with its origin
- `Session.Run.start`: a session at its beginning
- `Session.Run.step`, `Session.Run.exec`: one move, and a list of moves
-/

namespace QueryConsole

namespace Session

/-- Who causes an event. -/
inductive Origin
  /-- the call of that number -/
  | call (number : Nat)
  /-- the poller of the subscription of that number -/
  | poller (id : Nat)
  deriving DecidableEq, Repr

/-- What can be seen of a run. -/
inductive Event
  /-- a query is sent -/
  | sent (origin : Origin) (query : String)
  /-- a panel is updated -/
  | shown (origin : Origin) (panel : Panel) (content : Presentation)
  /-- a call ends -/
  | finished (call : Nat) (result : Except Error Value)
  /-- a call breaks -/
  | broken (call : Nat)
  deriving Repr

/-- A call that waits for the daemon. -/
structure Pending where
  call : Nat
  stage : Stage
  deriving DecidableEq, Repr

/-- A session, how many calls were ever begun in it, and those that wait. -/
structure Run where
  session : Session := {}
  begun : Nat := 0
  pending : List Pending := []
  deriving Repr

/-- What can happen next. Begun calls are numbered from zero on. -/
inductive Move
  /-- an operator begins a call -/
  | begin (now : Nat) (action : Action)
  /-- the outcome of a waiting call's query arrives -/
  | answer (call : Nat) (outcome : Outcome)
  /-- the poller of a subscription takes its tick and asks -/
  | ask (now id : Nat)
  /-- the answer to a poller's query arrives -/
  | receive (id : Nat) (outcome : Outcome)
  /-- a poller looks at its answer -/
  | look (id : Nat)
  /-- the session goes away, and its live view with it -/
  | drop
  deriving Repr

/-- What can be seen of the live view within a session. -/
def Event.ofLive : Live.Event → Event
  | .sent id query => .sent (.poller id) query
  | .shown id content => .shown (.poller id) .live content

/-- What can be seen of one run of a call. -/
def Turn.events (t : Turn) (call : Nat) : List Event :=
  t.shown.map (fun u => .shown (.call call) u.1 u.2) ++
    match t.progress with
    | .finished result => [.finished call result]
    | .waiting stage => [.sent (.call call) stage.query]
    | .broken => [.broken call]

/-- The calls that wait after one run of a call. -/
def Turn.pending (t : Turn) (call : Nat) : List Pending :=
  match t.progress with
  | .finished _ => []
  | .waiting stage => [⟨call, stage⟩]
  | .broken => []

namespace Run

/-- A session that nothing has happened in yet, with a way to show results and a rate of fetching;
zero leaves the default rate. -/
def start (renderer : Renderer) (period : Nat) : Run :=
  { session := ({ renderer := renderer } : Session).withPeriod period }

/-- Let the live view do something. -/
def live (r : Run) (result : Live × List Live.Event) : Run × List Event :=
  ({ r with session := { r.session with live := result.1 } }, result.2.map Event.ofLive)

/-- One move. A move that is not possible changes nothing. -/
def step (r : Run) : Move → Run × List Event
  | .begin now action =>
    let turn := r.session.begin now action
    (⟨turn.session, r.begun + 1, r.pending ++ turn.pending r.begun⟩,
      turn.events r.begun)
  | .answer call outcome =>
    match r.pending.find? (·.call == call) with
    | none => (r, [])
    | some p =>
      let turn := r.session.resume p.stage outcome
      (⟨turn.session, r.begun, r.pending.filter (·.call != call) ++ turn.pending call⟩,
        turn.events call)
  | .ask now id => r.live (r.session.live.ask now id)
  | .receive id outcome => r.live (r.session.live.receive id outcome, [])
  | .look id => r.live (r.session.live.look r.session.renderer id)
  | .drop => ({ r with session := r.session.close }, [])

/-- A list of moves, and all that can be seen of them. -/
def exec (r : Run) : List Move → Run × List Event
  | [] => (r, [])
  | m :: rest =>
    let (r, first) := r.step m
    let (r, later) := r.exec rest
    (r, first ++ later)

end Run

end Session

end QueryConsole
