import QueryConsole.Rehearsal.Script
import QueryConsole.Session.Basic

/-!
# Virtual time

A console is rehearsed against a scripted daemon on a clock that moves only when something is waited
for. This module holds what is common to all rehearsals: the clock, what was sent and shown, and the
poller of the live view, which goes about its business while time passes.

## Main definitions

- `Rehearsal.Cast`: what is rehearsed
- `Rehearsal.World`: the clock, the rehearsed console, and its history
- `Rehearsal.World.send`: a query leaves, and its answer is looked up
- `Rehearsal.World.pollUntil`, `Rehearsal.World.advanceTo`: time passes
-/

namespace QueryConsole

namespace Rehearsal

/-- What is rehearsed: a state `σ` that has a live view, and the deeds `α` that change it at
once. -/
structure Cast (σ α : Type) where
  live : σ → Live
  withLive : σ → Live → σ
  renderer : σ → Renderer
  perform : σ → Nat → α → σ × List Update

/-- The answer to a poller's query on its way. -/
structure Flight (α : Type) where
  due : Nat
  id : Nat
  cue : Cue α

/-- A rehearsal under way. Histories have the latest entry first. -/
structure World (σ α : Type) where
  now : Nat := 0
  subject : σ
  flight : Option (Flight α) := none
  sent : List (Nat × String) := []
  shown : List (Nat × Update) := []

namespace World

variable {σ α : Type}

/-- Write updates into the history. -/
def record (w : World σ α) (updates : List Update) : World σ α :=
  { w with shown := (updates.map (Prod.mk w.now)).reverse ++ w.shown }

/-- How many times a query was sent. -/
def sentTimes (w : World σ α) (query : String) : Nat :=
  w.sent.countP (·.2 == query)

/-- A query leaves; its answer is the one whose turn it is. -/
def send (w : World σ α) (script : Script α) (query : String) : World σ α × Cue α :=
  ({ w with sent := (w.now, query) :: w.sent }, script.cue (w.sentTimes query) query)

/-- Do what a cue asks for just before its answer is given. -/
def intrude (w : World σ α) (cast : Cast σ α) (cue : Cue α) : World σ α :=
  match cue.during with
  | none => w
  | some deed =>
    let (subject, updates) := cast.perform w.subject w.now deed
    { w with subject := subject }.record updates

/-- The updates that the live view shows. -/
def updatesOf (events : List Live.Event) : List Update :=
  events.filterMap fun
    | .sent _ _ => none
    | .shown _ content => some (.live, content)

/-- The answer to a poller's query is given: it arrives, and the poller looks at it. -/
def deliver (w : World σ α) (cast : Cast σ α) (id : Nat) (cue : Cue α) : World σ α :=
  let live := (cast.live w.subject).receive id cue.outcome
  let w := { w with subject := cast.withLive w.subject live, flight := none }.intrude cast cue
  let (live, events) := (cast.live w.subject).look (cast.renderer w.subject) id
  { w with subject := cast.withLive w.subject live }.record (updatesOf events)

/-- A poller takes its tick. An answer without delay is given at once. -/
def poll (w : World σ α) (cast : Cast σ α) (script : Script α) (p : Live.Poller) : World σ α :=
  let (live, events) := (cast.live w.subject).ask w.now p.id
  let w := { w with subject := cast.withLive w.subject live }
  match events with
  | .sent id query :: _ =>
    let (w, cue) := w.send script query
    if cue.delay = 0 then w.deliver cast id cue
    else { w with flight := some ⟨w.now + cue.delay, id, cue⟩ }
  | _ => w

/-- When a poller does something next: it takes its tick, or its answer is given. -/
def nextOf (w : World σ α) (p : Live.Poller) : Option Nat :=
  match p.phase with
  | .resting => some (p.ticker.ready w.now)
  | .asking => (w.flight.filter (·.id == p.id)).map Flight.due
  | .answered _ => none

/-- The poller that does something next, and when. -/
def next? (w : World σ α) (cast : Cast σ α) : Option (Nat × Live.Poller) :=
  (cast.live w.subject).pollers.findSome? fun p => (w.nextOf p).map fun due => (due, p)

/-- What a poller does next. -/
def act (w : World σ α) (cast : Cast σ α) (script : Script α) (p : Live.Poller) : World σ α :=
  match p.phase, w.flight with
  | .resting, _ => w.poll cast script p
  | .asking, some f => w.deliver cast f.id f.cue
  | _, _ => w

/-- Let the pollers do at most so many things up to a time. -/
def pollUntil (cast : Cast σ α) (script : Script α) (time : Nat) : Nat → World σ α → World σ α
  | 0, w => w
  | fuel + 1, w =>
    match w.next? cast with
    | none => w
    | some (due, p) =>
      if due ≤ time then pollUntil cast script time fuel ({ w with now := due }.act cast script p)
      else w

/-- Time passes up to a moment, and all that is due by then happens. Every tick has a later deadline
than the tick before it, so no more than one tick for each millisecond is taken. -/
def advanceTo (w : World σ α) (cast : Cast σ α) (script : Script α) (time : Nat) : World σ α :=
  { pollUntil cast script time (2 * (time + 2)) w with now := time }

end World

end Rehearsal

end QueryConsole
