import QueryConsole.Supervisor.Basic

/-!
# The steps of supervision

Callers start and stop the daemon; a watch looks after each process that was spawned. They share the
state that others see, a lock that a call holds while it works, and a handle on the last process. A
step is one read or one write of what is shared, and a call or a watch may be interrupted between
any two of its steps.

## Main definitions

- `Supervisor.Child`, `Supervisor.Call`: the processes and the calls
- `Supervisor`: what they share
- `Supervisor.Move`, `Supervisor.step`: the single steps
- `Supervisor.Event`: what a step does to the outside
-/

namespace QueryConsole

namespace Supervisor

/-- Where the watch over a process stands. -/
inductive Watch
  /-- it has not begun -/
  | idle
  /-- it waits for the process to end or for the word to stop it -/
  | waiting
  /-- the process was asked to end and has some time for it -/
  | grace
  /-- the process was killed -/
  | killed
  /-- the process was reaped; the state has yet to be written -/
  | reaped (status : ExitStatus)
  /-- all is done -/
  | finished (status : ExitStatus)
  deriving DecidableEq, Repr

/-- A spawned process: how it ended if it did, whether there is word to stop it, and the watch over
it. -/
structure Child where
  ended : Option ExitStatus := none
  told : Bool := false
  watch : Watch := .idle
  deriving DecidableEq, Repr

/-- Whether a process still has to be reaped. -/
def Child.isUnreaped (c : Child) : Bool :=
  match c.watch with
  | .reaped _ => false
  | .finished _ => false
  | _ => true

/-- Where a call stands. Calls that start and calls that stop the daemon begin by waiting for the
lock, and may wait for a watch to be done. -/
inductive Call
  /-- start: wait for the lock -/
  | starting
  /-- start: look at the state -/
  | checking
  /-- start: see whether an earlier process has a handle -/
  | clearing
  /-- start: wait for the watch over the earlier process -/
  | joining (stale : Nat)
  /-- start: write that the daemon is starting -/
  | marking
  /-- start: spawn the process -/
  | spawning
  /-- start: write that the daemon is stopped after all -/
  | failing (fault : SpawnFault)
  /-- start: write that the daemon is running -/
  | announcing (child : Nat)
  /-- start: begin the watch and keep its handle -/
  | keeping (child : Nat)
  /-- start: it is over -/
  | started (result : Except StartFault Unit)
  /-- stop: wait for the lock -/
  | stopping
  /-- stop: take the handle -/
  | taking
  /-- stop: look at the state -/
  | looking (child : Nat)
  /-- stop: write that the daemon is stopping -/
  | noting (child : Nat)
  /-- stop: give word to the watch -/
  | telling (child : Nat)
  /-- stop: wait for the watch -/
  | awaiting (child : Nat)
  /-- stop: it is over -/
  | stopped (result : Option ExitStatus)
  deriving Repr

/-- Whether a call stands where it waits or is over. In between it does not let go. -/
def Call.rests : Call → Bool
  | .starting => true
  | .joining _ => true
  | .started _ => true
  | .stopping => true
  | .awaiting _ => true
  | .stopped _ => true
  | _ => false

/-- Whether a watch stands where it waits or is over. -/
def Watch.rests : Watch → Bool
  | .reaped _ => false
  | _ => true

end Supervisor

/-- What calls and watches share, and where each of them stands. Processes and calls are known by
their places in the lists. -/
structure Supervisor where
  state : Supervisor.State := .stopped
  /-- whether a call holds the lock -/
  locked : Bool := false
  /-- the process whose handle is kept -/
  handle : Option Nat := none
  children : List Supervisor.Child := []
  calls : List Supervisor.Call := []
  deriving Repr

namespace Supervisor

/-- What a step does to the outside. -/
inductive Event
  /-- the state is written -/
  | state (state : State)
  /-- a process is spawned -/
  | spawned (child : Nat)
  /-- a process is sent a signal -/
  | signalled (child : Nat) (signal : Nat)
  /-- a process is reaped -/
  | reaped (child : Nat) (status : ExitStatus)
  deriving DecidableEq, Repr

/-- What the system says to a wish to spawn the daemon. -/
abbrev Spawn := Except SpawnFault Unit

/-- The single steps. -/
inductive Move
  /-- a call to start the daemon comes in -/
  | start
  /-- a call to stop the daemon comes in -/
  | stop
  /-- a call goes on; if it spawns the process, this is what comes of it -/
  | call (call : Nat) (spawn : Spawn)
  /-- a process ends -/
  | exit (child : Nat) (status : ExitStatus)
  /-- a watch goes on; if its process has ended and there is word to stop it, it may see the word
  first -/
  | watch (child : Nat) (wordFirst : Bool)
  /-- a process that was asked to end has had its time -/
  | expire (child : Nat)
  deriving Repr

/-- Write the state. -/
def write (s : Supervisor) (state : State) : Supervisor × List Event :=
  ({ s with state := state }, [.state state])

/-- Change a process. -/
def change (s : Supervisor) (child : Nat) (f : Child → Child) : Supervisor :=
  { s with children := s.children.modify child f }

/-- Put a call somewhere else. -/
def put (s : Supervisor) (call : Nat) (c : Call) : Supervisor :=
  { s with calls := s.calls.set call c }

/-- End a call that holds the lock. -/
def leave (s : Supervisor) (call : Nat) (c : Call) : Supervisor :=
  { s.put call c with locked := false }

/-- How a process was found to have ended, when the watch over it is done. -/
def result? (s : Supervisor) (child : Nat) : Option ExitStatus :=
  match s.children[child]? with
  | some ⟨_, _, .finished status⟩ => some status
  | _ => none

/-- The next step of a call that starts or stops the daemon. -/
def callStep (s : Supervisor) (call : Nat) (spawn : Spawn) : Supervisor × List Event :=
  match s.calls[call]? with
  | some .starting =>
    (if s.locked then s else { s.put call .checking with locked := true }, [])
  | some .checking =>
    (if s.state = .stopped then s.put call .clearing
      else s.leave call (.started (.error (.active s.state))), [])
  | some .clearing =>
    match s.handle with
    | some stale => ({ s.put call (.joining stale) with handle := none }, [])
    | none => (s.put call .marking, [])
  | some (.joining stale) =>
    (if (s.result? stale).isSome then s.put call .marking else s, [])
  | some .marking => (s.put call .spawning).write .starting
  | some .spawning =>
    match spawn with
    | .ok _ =>
      ({ s.put call (.announcing s.children.length) with children := s.children ++ [{}] },
        [.spawned s.children.length])
    | .error fault => (s.put call (.failing fault), [])
  | some (.failing fault) => (s.leave call (.started (.error (.spawn fault)))).write .stopped
  | some (.announcing child) => (s.put call (.keeping child)).write .running
  | some (.keeping child) =>
    ({ (s.leave call (.started (.ok ()))).change child ({ · with watch := .waiting }) with
      handle := some child }, [])
  | some .stopping =>
    (if s.locked then s else { s.put call .taking with locked := true }, [])
  | some .taking =>
    match s.handle with
    | none => (s.leave call (.stopped none), [])
    | some child => ({ s.put call (.looking child) with handle := none }, [])
  | some (.looking child) =>
    (s.put call (if s.state = .running then .noting child else .telling child), [])
  | some (.noting child) => (s.put call (.telling child)).write .stopping
  | some (.telling child) =>
    ((s.put call (.awaiting child)).change child ({ · with told := true }), [])
  | some (.awaiting child) =>
    match s.result? child with
    | some status => (s.leave call (.stopped (some status)), [])
    | none => (s, [])
  | _ => (s, [])

/-- Reap a process that has ended. -/
def reap (s : Supervisor) (child : Nat) (status : ExitStatus) : Supervisor × List Event :=
  (s.change child ({ · with watch := .reaped status }), [.reaped child status])

/-- The next step of the watch over a process. -/
def watchStep (s : Supervisor) (child : Nat) (wordFirst : Bool) : Supervisor × List Event :=
  match s.children[child]? with
  | some ⟨ended, told, .waiting⟩ =>
    match ended with
    | some status =>
      if told && wordFirst then
        (s.change child ({ · with watch := .grace }), [.signalled child terminate])
      else s.reap child status
    | none =>
      if told then (s.change child ({ · with watch := .grace }), [.signalled child terminate])
      else (s, [])
  | some ⟨some status, _, .grace⟩ => s.reap child status
  | some ⟨some status, _, .killed⟩ => s.reap child status
  | some ⟨_, _, .reaped status⟩ =>
    (s.change child ({ · with watch := .finished status })).write .stopped
  | _ => (s, [])

/-- A process has had its time to end, and is killed. -/
def expire (s : Supervisor) (child : Nat) : Supervisor × List Event :=
  match s.children[child]? with
  | some ⟨_, _, .grace⟩ =>
    (s.change child ({ · with watch := .killed }), [.signalled child kill])
  | _ => (s, [])

/-- A process ends. It ends once. -/
def exit (s : Supervisor) (child : Nat) (status : ExitStatus) : Supervisor :=
  s.change child fun c => { c with ended := c.ended <|> some status }

/-- One single step. A step that is not possible changes nothing. -/
def step (s : Supervisor) : Move → Supervisor × List Event
  | .start => ({ s with calls := s.calls ++ [.starting] }, [])
  | .stop => ({ s with calls := s.calls ++ [.stopping] }, [])
  | .call call spawn => s.callStep call spawn
  | .exit child status => (s.exit child status, [])
  | .watch child wordFirst => s.watchStep child wordFirst
  | .expire child => s.expire child

end Supervisor

end QueryConsole
