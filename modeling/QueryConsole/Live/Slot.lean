import QueryConsole.Live.Ticker
import QueryConsole.Presentation
import QueryConsole.Error

/-!
# The live view of one table

While a table is watched its rows are fetched again and again. There is at most one subscription;
taking another hands back the one before. A poller fetches the rows of its subscription: it rests
until its ticker falls due, asks, and looks at what arrives. Handing a subscription back stops its
poller, unless its answer has just arrived; then the poller stops when it looks, because it shows
nothing unless its own subscription is still the active one. A poller whose answer cannot be shown
breaks and is gone, and its subscription stays.

## Main definitions

- `Live`: the slot that holds the subscription, and the pollers
- `Live.subscribe`, `Live.release`: taking and handing back a subscription
- `Live.ask`, `Live.receive`, `Live.look`: the three steps of a poller
- `Live.Move`, `Live.step`, `Live.exec`: all of these as the moves of one system, and its runs
-/

namespace QueryConsole

/-- What comes of a query: a reply, or why there is none. -/
abbrev Outcome := Except Error Reply

/-- How a transport error is shown. -/
def Error.notice (e : Error) : Presentation :=
  .error s!"Error: {e.message}"

/-- What a live panel shows for the outcome of a poll, if the renderer returns. -/
def Outcome.shown (renderer : Renderer) : Outcome → Option Presentation
  | .ok reply => renderer.render reply
  | .error e => some e.notice

namespace Live

/-- The statement that fetches a table. -/
def selectAll (table : String) : String :=
  s!"SELECT * FROM {table};"

/-- What a poller is doing. -/
inductive Phase
  /-- it waits for its ticker -/
  | resting
  /-- it waits for the answer to its query -/
  | asking
  /-- its answer has arrived, and it has not yet looked at it -/
  | answered (outcome : Outcome)
  deriving Repr

/-- Whether an answer has arrived. -/
def Phase.isAnswered : Phase → Bool
  | .answered _ => true
  | _ => false

/-- Whether the poller waits for its ticker. -/
def Phase.isResting : Phase → Bool
  | .resting => true
  | _ => false

/-- Whether the poller waits for an answer. -/
def Phase.isAsking : Phase → Bool
  | .asking => true
  | _ => false

/-- Who fetches the rows of a subscription. -/
structure Poller where
  id : Nat
  table : String
  ticker : Ticker
  phase : Phase
  deriving Repr

/-- A watched table. No two subscriptions have the same number. -/
structure Subscription where
  id : Nat
  table : String
  deriving DecidableEq, Repr

end Live

/-- The slot of the live view: how many subscriptions were ever taken, the active one, and the
pollers that have not stopped. -/
structure Live where
  issued : Nat := 0
  active : Option Live.Subscription := none
  pollers : List Live.Poller := []
  deriving Repr

namespace Live

/-- The table that is watched. -/
def table (l : Live) : Option String :=
  l.active.map Subscription.table

/-- Whether a subscription is the active one. -/
def isActive (l : Live) (id : Nat) : Bool :=
  l.active.any (·.id == id)

/-- The poller of a subscription, unless it has stopped. -/
def poller? (l : Live) (id : Nat) : Option Poller :=
  l.pollers.find? (·.id == id)

/-- Hand back the active subscription, if there is one. -/
def release (l : Live) : Live :=
  { l with
    active := none
    pollers := l.pollers.filter fun p => !l.isActive p.id || p.phase.isAnswered }

/-- Watch a table in place of the one before. -/
def subscribe (l : Live) (now period : Nat) (table : String) : Live :=
  let id := l.issued + 1
  { issued := id
    active := some ⟨id, table⟩
    pollers := l.release.pollers ++
      [⟨id, table, .start now (Ticker.effective period), .resting⟩] }

/-- Change the poller of a subscription. -/
def update (l : Live) (id : Nat) (change : Poller → Poller) : Live :=
  { l with pollers := l.pollers.map fun p => if p.id = id then change p else p }

/-- Let the poller of a subscription stop. -/
def stop (l : Live) (id : Nat) : Live :=
  { l with pollers := l.pollers.filter (·.id != id) }

/-- What others can see of the live view: the queries of its pollers and what they show. -/
inductive Event
  /-- a poller sends a query -/
  | sent (id : Nat) (query : String)
  /-- a poller writes to the live panel -/
  | shown (id : Nat) (content : Presentation)
  deriving DecidableEq, Repr

/-- A resting poller whose ticker is due takes the tick and sends its query. -/
def ask (l : Live) (now id : Nat) : Live × List Event :=
  match l.poller? id with
  | some ⟨_, table, ticker, .resting⟩ =>
    if ticker.deadline ≤ now then
      (l.update id fun p => { p with ticker := ticker.next now, phase := .asking },
        [.sent id (selectAll table)])
    else (l, [])
  | _ => (l, [])

/-- The answer to a poller's query arrives. -/
def receive (l : Live) (id : Nat) (outcome : Outcome) : Live :=
  match l.poller? id with
  | some ⟨_, _, _, .asking⟩ => l.update id fun p => { p with phase := .answered outcome }
  | _ => l

/-- A poller looks at its answer. It shows it if its subscription is still the active one, and stops
otherwise. It renders the answer before it looks which of the two is so, and stops if that breaks
it. -/
def look (l : Live) (renderer : Renderer) (id : Nat) : Live × List Event :=
  match l.poller? id with
  | some ⟨_, _, _, .answered outcome⟩ =>
    match outcome.shown renderer with
    | none => (l.stop id, [])
    | some content =>
      if l.isActive id then (l.update id fun p => { p with phase := .resting }, [.shown id content])
      else (l.stop id, [])
  | _ => (l, [])

/-- The moves of the live view. -/
inductive Move
  | subscribe (now period : Nat) (table : String)
  | release
  | ask (now id : Nat)
  | receive (id : Nat) (outcome : Outcome)
  | look (id : Nat)
  deriving Repr

/-- One move. A move that is not possible changes nothing. -/
def step (renderer : Renderer) (l : Live) : Move → Live × List Event
  | .subscribe now period table => (l.subscribe now period table, [])
  | .release => (l.release, [])
  | .ask now id => l.ask now id
  | .receive id outcome => (l.receive id outcome, [])
  | .look id => l.look renderer id

/-- A list of moves, and all that can be seen of them. -/
def exec (renderer : Renderer) (l : Live) : List Move → Live × List Event
  | [] => (l, [])
  | m :: rest =>
    let (l, first) := l.step renderer m
    let (l, later) := l.exec renderer rest
    (l, first ++ later)

end Live

end QueryConsole
