import QueryConsole.Supervisor.Machine
import QueryConsole.Supervisor.Run

/-!
# Supervising a scripted program

One call after another, each seen through to its end, while the processes do what their programs
say.

## Main definitions

- `Supervisor.Trial`: a supervisor, its processes, and what was logged
- `Supervisor.Trial.start`, `Supervisor.Trial.stop`, `Supervisor.Trial.wait`: the calls
- `Supervisor.Trial.takeLog`: what was logged since the last look
-/

namespace QueryConsole

namespace Supervisor

/-- What was logged. -/
structure Log where
  stdout : List (List Char) := []
  stderr : List (List Char) := []
  exits : List String := []

/-- Which program a supervisor runs, and where. -/
structure Deployment where
  binary : String
  workingDir : String

/-- A supervisor with its processes and its log. The endings of the processes are in the order they
were spawned. -/
structure Trial where
  machine : Machine
  deployment : Deployment
  supervisor : Supervisor := {}
  endings : List Ending := []
  log : Log := {}

namespace Trial

/-- What is logged of events: the exits of reaped processes. -/
def exitsOf (events : List Event) : List String :=
  events.filterMap fun
    | .reaped _ status => some status.record
    | _ => none

/-- Take turns, and log them. -/
def take (t : Trial) (moves : List Move) : Trial :=
  let (supervisor, events) := t.supervisor.run moves
  { t with
    supervisor := supervisor
    log := { t.log with exits := t.log.exits ++ exitsOf events } }

/-- What the system says to the wish to spawn the daemon now. -/
def spawn (t : Trial) : Except SpawnFault (Program × Trail) :=
  t.machine.spawn t.deployment.binary t.deployment.workingDir

/-- Note what a spawned program writes and what becomes of it, if it was spawned. -/
def note (t : Trial) (spawned : Except SpawnFault (Program × Trail)) : Trial :=
  match spawned with
  | .error _ => t
  | .ok (program, place) =>
    if t.endings.length < t.supervisor.children.length then
      let (stdout, stderr) := program.output place
      { t with
        endings := t.endings ++ [program.ending]
        log := { t.log with
          stdout := t.log.stdout ++ records stdout
          stderr := t.log.stderr ++ records stderr } }
    else t

/-- Start the daemon, and wait for the outcome. -/
def start (t : Trial) : Trial × Except StartFault Unit :=
  let call := t.supervisor.calls.length
  let spawned := t.spawn
  let outcome : Spawn := spawned.map fun _ => ()
  let t := (t.take [.start, .call call outcome, .call call outcome]).note spawned
  match t.supervisor.calls[call]? with
  | some (.started result) => (t, result)
  | _ => (t, .ok ())

/-- Let a process end in its own way, if it does so without being asked. -/
def endByItself (t : Trial) (child : Nat) : Trial :=
  match t.endings[child]? with
  | some (.own status) => t.take [.exit child status, .watch child false]
  | _ => t

/-- Wait until no process ends by itself any more. -/
def wait (t : Trial) : Trial :=
  (List.range t.endings.length).foldl endByItself t

/-- Let a process react to the signal it was sent last: to end, or to be killed when its time is
over. -/
def react (t : Trial) (child : Nat) : Trial :=
  match t.endings[child]? with
  | none => t
  | some ending =>
    match ending.reaction terminate with
    | some status => t.take [.exit child status, .watch child false]
    | none =>
      match ending.reaction kill with
      | some status => t.take [.expire child, .exit child status, .watch child false]
      | none => t

/-- Ask the daemon to end; whether its own end is waited for comes next. -/
def beginStop (t : Trial) : Trial × Nat :=
  let call := t.supervisor.calls.length
  let t := t.take [.stop, .call call (.ok ())]
  ((List.range t.endings.length).foldl (fun t child => t.take [.watch child true]) t, call)

/-- Wait for the end of the daemon, and for the call that asked for it. -/
def endStop (t : Trial) (call : Nat) : Trial × Option ExitStatus :=
  let t := (List.range t.endings.length).foldl react t
  let t := t.take [.call call (.ok ())]
  match t.supervisor.calls[call]? with
  | some (.stopped result) => (t, result)
  | _ => (t, none)

/-- Stop the daemon, and wait for its end. A daemon that ends by itself does so before it can be
asked. -/
def stop (t : Trial) : Trial × Option ExitStatus :=
  let (t, call) := t.wait.beginStop
  t.endStop call

/-- What was logged since the last look. -/
def takeLog (t : Trial) : Trial × Log :=
  ({ t with log := {} }, t.log)

end Trial

end Supervisor

end QueryConsole
