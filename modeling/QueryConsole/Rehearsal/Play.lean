import QueryConsole.Rehearsal.World

/-!
# Rehearsing a session

The operators of a rehearsal work side by side, each through a list of tasks of his own. An operator
goes on until he has to wait, for an answer or because he sleeps; whoever waits for the earliest
moment goes on next, and of two who wait for the same moment the one who began to wait first. An
operator whose call breaks does nothing any more.

## Main definitions

- `Rehearsal.Task`: what an operator does next
- `Rehearsal.Operator`, `Rehearsal.Appointment`, `Rehearsal.Play`: who is at work, who waits
- `Rehearsal.Play.run`: all operators work through their tasks
-/

namespace QueryConsole

namespace Rehearsal

open Session (Action Value Stage Turn)

/-- What an operator does. -/
inductive Task
  | act (action : Action)
  /-- change to the tab of that name -/
  | tab (name : String)
  | sleep (ms : Nat)
  /-- leave the session for good -/
  | leave
  deriving Repr

/-- What an operator is told at the end of a task. -/
inductive Told
  | nothing
  | result (result : Except Error Value)
  /-- the session is gone -/
  | gone
  /-- the call has broken -/
  | broken
  deriving Repr

/-- A session in rehearsal; one that was left is gone for good. -/
structure Rehearsed where
  session : Session
  gone : Bool := false

namespace Rehearsed

/-- An action that needs no daemon is done at once. -/
def perform (r : Rehearsed) (now : Nat) (action : Action) : Rehearsed × List Update :=
  let turn := r.session.begin now action
  ({ r with session := turn.session }, turn.shown)

/-- A session as a subject of rehearsal. -/
def cast : Cast Rehearsed Action where
  live r := r.session.live
  withLive r live := { r with session := { r.session with live := live } }
  renderer r := r.session.renderer
  perform := perform

end Rehearsed

/-- The world of a session in rehearsal. -/
abbrev Theatre := World Rehearsed Action

/-- What an operator waits for. -/
inductive Wake
  /-- the end of a sleep -/
  | sleep
  /-- the answer to the query of a stage -/
  | answer (stage : Stage) (cue : Cue Action)

/-- How a call stands when its operator stops working on it. -/
inductive Standing
  | ended (result : Except Error Value)
  | waits (due : Nat) (wake : Wake)
  | broken

/-- An operator: the tasks before him, and when he was told what, the latest first. -/
structure Operator where
  todo : List Task
  told : List (Nat × Told) := []

/-- Who goes on when, and what for. -/
structure Appointment where
  due : Nat
  operator : Nat
  wake : Wake

/-- A rehearsal in which several operators work. Appointments are in the order they are kept. -/
structure Play where
  world : Theatre
  operators : List Operator
  agenda : List Appointment := []

namespace Theatre

/-- A call goes on from one of its turns, through all queries that are answered without delay. -/
def follow (script : Script Action) : Nat → Theatre → Turn → Theatre × Standing
  | fuel, w, turn =>
    let w := { w with subject := { w.subject with session := turn.session } }.record turn.shown
    match turn.progress with
    | .finished result => (w, .ended result)
    | .broken => (w, .broken)
    | .waiting stage =>
      let (w, cue) := w.send script stage.query
      match fuel, cue.delay with
      | fuel + 1, 0 =>
        let w := w.intrude Rehearsed.cast cue
        follow script fuel w (w.subject.session.resume stage cue.outcome)
      | _, delay => (w, .waits (w.now + delay) (.answer stage cue))

/-- A call is begun. No call sends more than two queries. -/
def begin (w : Theatre) (script : Script Action) (action : Action) : Theatre × Standing :=
  follow script 2 w (w.subject.session.begin w.now action)

/-- A call goes on with the answer it waited for. -/
def resume (w : Theatre) (script : Script Action) (stage : Stage) (cue : Cue Action) :
    Theatre × Standing :=
  let w := w.intrude Rehearsed.cast cue
  follow script stage.ahead w (w.subject.session.resume stage cue.outcome)

end Theatre

/-- What an operator is told at the end of an action. Ending the live view is not answered. -/
def toldOf (action : Action) (result : Except Error Value) : Told :=
  match action with
  | .close => .nothing
  | _ => .result result

namespace Theatre

/-- Start a task. -/
def start (w : Theatre) (script : Script Action) : Task → Theatre × (Told ⊕ Nat × Wake)
  | .sleep ms => (w, .inr (w.now + ms, .sleep))
  | .leave =>
    if w.subject.gone then (w, .inl .gone)
    else ({ w with subject := ⟨w.subject.session.close, true⟩ }, .inl .nothing)
  | .tab name =>
    if w.subject.gone then (w, .inl .gone)
    else match Tab.parse name with
      | .error e => (w, .inl (.result (.error e)))
      | .ok tab =>
        ({ w with subject := { w.subject with session := w.subject.session.enter tab } },
          .inl (.result (.ok .nothing)))
  | .act action =>
    if w.subject.gone then (w, .inl .gone)
    else match w.begin script action with
      | (w, .ended result) => (w, .inl (toldOf action result))
      | (w, .broken) => (w, .inl .broken)
      | (w, .waits due wake) => (w, .inr (due, wake))

/-- An operator works until he waits or has nothing left to do. -/
def work (script : Script Action) : Theatre → List (Nat × Told) → List Task →
    Theatre × Operator × Option (Nat × Wake)
  | w, told, [] => (w, ⟨[], told⟩, none)
  | w, told, task :: rest =>
    match w.start script task with
    | (w, .inl .broken) => (w, ⟨[], (w.now, .broken) :: told⟩, none)
    | (w, .inl end_) => work script w ((w.now, end_) :: told) rest
    | (w, .inr wait) => (w, ⟨rest, told⟩, some wait)

end Theatre

namespace Play

/-- Enter an appointment behind those that are not later. -/
def enter (a : Appointment) : List Appointment → List Appointment
  | [] => [a]
  | b :: rest => if a.due < b.due then a :: b :: rest else b :: enter a rest

/-- An operator works until he waits. -/
def work (p : Play) (script : Script Action) (number : Nat) (o : Operator) : Play :=
  let (world, o, wait) := p.world.work script o.told o.todo
  { world := world
    operators := p.operators.set number o
    agenda := match wait with
      | none => p.agenda
      | some (due, wake) => enter ⟨due, number, wake⟩ p.agenda }

/-- An operator goes on with what he waited for. -/
def wake (p : Play) (script : Script Action) (a : Appointment) (o : Operator) : Play :=
  match a.wake with
  | .sleep => p.work script a.operator { o with told := (p.world.now, .nothing) :: o.told }
  | .answer stage cue =>
    match p.world.resume script stage cue with
    | (w, .ended result) =>
      { p with world := w }.work script a.operator
        { o with told := (w.now, .result result) :: o.told }
    | (w, .broken) =>
      { p with world := w, operators := p.operators.set a.operator ⟨[], (w.now, .broken) :: o.told⟩ }
    | (w, .waits due wake) =>
      { p with world := w, agenda := enter ⟨due, a.operator, wake⟩ p.agenda }

/-- The earliest appointment is kept, once time has passed up to it. -/
def keep (p : Play) (script : Script Action) (a : Appointment) (later : List Appointment) : Play :=
  let p : Play :=
    { p with world := p.world.advanceTo Rehearsed.cast script a.due, agenda := later }
  match p.operators[a.operator]? with
  | none => p
  | some o => p.wake script a o

/-- At most so many appointments are kept. -/
def keepAll (script : Script Action) : Nat → Play → Play
  | 0, p => p
  | fuel + 1, p =>
    match p.agenda with
    | [] => p
    | a :: later => keepAll script fuel (p.keep script a later)

/-- All operators begin, in order. -/
def beginAll (script : Script Action) (p : Play) : Play :=
  p.operators.zipIdx.foldl (fun p (o, number) => p.work script number o) p

/-- How many appointments there can be: each task waits at most twice. -/
def bound (p : Play) : Nat :=
  2 * (p.operators.flatMap fun o => o.todo).length

/-- All operators work through their tasks, and then all is done that is due by the time the last
one is through. -/
def run (script : Script Action) (p : Play) : Play :=
  let p := keepAll script p.bound (p.beginAll script)
  { p with world := p.world.advanceTo Rehearsed.cast script p.world.now }

end Play

/-- Operators work through their tasks side by side: when each of them was told what, in order. -/
def Theatre.perform (w : Theatre) (script : Script Action) (tasks : List (List Task)) :
    Theatre × List (List (Nat × Told)) :=
  let p := Play.run script ⟨w, tasks.map fun todo => ⟨todo, []⟩, []⟩
  (p.world, p.operators.map fun o => o.told.reverse)

end Rehearsal

end QueryConsole
