import QueryConsole.Http.Router
import QueryConsole.Supervisor.Step

/-!
# Serving until shutdown

The server answers requests until it is signalled, and on: first the daemon is stopped and reaped,
then the listener is closed, and then the requests that are still under way are answered. Meanwhile
the call that stops the daemon, the watches and the processes go on in single steps, in any order,
and time passes.

## Main definitions

- `Server`: the supervisor, the requests under way, the time, and the phase of serving
- `Server.Move`, `Server.step`: what can happen next
- `Server.exec`: a list of moves
-/

namespace QueryConsole

open Http (Request Answer History Router)

namespace Server

/-- What serving needs. -/
structure Setup where
  /-- what requests are answered by -/
  router : Router
  /-- how many milliseconds a process may take to end that was asked to -/
  stopTimeout : Nat

/-- How far the server is. -/
inductive Phase
  /-- it serves -/
  | serving
  /-- it was signalled, and a call to stop the daemon is under way -/
  | stopping (call : Nat)
  /-- the listener is closed, and requests are still under way -/
  | draining (status : Option Supervisor.ExitStatus)
  /-- it is over -/
  | ended (status : Option Supervisor.ExitStatus)
  deriving DecidableEq, Repr

/-- Whether the listener accepts connections. -/
def Phase.isListening : Phase → Bool
  | .serving => true
  | .stopping _ => true
  | _ => false

end Server

/-- A web server: the supervisor of its daemon, the time in milliseconds, when processes were asked
to end, the queries that were forwarded, the requests under way by their numbers, how many requests
there were, and the phase. -/
structure Server where
  supervisor : Supervisor
  clock : Nat := 0
  asked : List (Nat × Nat) := []
  history : History := []
  underWay : List (Nat × Request) := []
  arrived : Nat := 0
  phase : Server.Phase := .serving

namespace Server

/-- What can be seen of a server. -/
inductive Event
  /-- a request is accepted -/
  | accepted (request : Nat)
  /-- a request finds nobody listening -/
  | refused (request : Nat)
  /-- a request is answered -/
  | answered (request : Nat) (answer : Answer)
  /-- something happens to the daemon at some time -/
  | daemon (time : Nat) (event : Supervisor.Event)
  deriving DecidableEq, Repr

/-- What can happen next. -/
inductive Move
  /-- the call that stops the daemon goes on -/
  | stop
  /-- a process ends -/
  | exit (child : Nat) (status : Supervisor.ExitStatus)
  /-- a watch goes on -/
  | watch (child : Nat) (wordFirst : Bool)
  /-- a watch sees that its process has had its time -/
  | expire (child : Nat)
  /-- time passes -/
  | pass (time : Nat)
  /-- a request arrives -/
  | request (request : Request)
  /-- a request under way is answered -/
  | answer (request : Nat)
  /-- the server is told to shut down -/
  | signal
  /-- the daemon is stopped, and the listener is closed -/
  | close
  /-- no request is under way any more -/
  | finish

/-- When a process is asked to end, that is noted. -/
def askedAt (time : Nat) : Supervisor.Event → Option (Nat × Nat)
  | .signalled child signal => if signal = Supervisor.terminate then some (child, time) else none
  | _ => none

/-- Let the supervisor take a single step. -/
def take (s : Server) (m : Supervisor.Move) : Server × List Event :=
  let (supervisor, events) := s.supervisor.step m
  ({ s with supervisor := supervisor, asked := s.asked ++ events.filterMap (askedAt s.clock) },
    events.map (.daemon s.clock))

/-- Whether a process was asked to end and has had its time. -/
def isDue (setup : Setup) (s : Server) (child : Nat) : Bool :=
  (s.asked.lookup child).any fun time => time + setup.stopTimeout ≤ s.clock

/-- How the daemon ended, if the call that stops it is over. -/
def stopped? (s : Server) (call : Nat) : Option (Option Supervisor.ExitStatus) :=
  match s.supervisor.calls[call]? with
  | some (.stopped result) => some result
  | _ => none

/-- One move. A move that is not possible changes nothing. -/
def step (setup : Setup) (s : Server) : Move → Server × List Event
  | .stop =>
    match s.phase with
    | .stopping call => s.take (.call call (.ok ()))
    | _ => (s, [])
  | .exit child status => s.take (.exit child status)
  | .watch child wordFirst => s.take (.watch child wordFirst)
  | .expire child => if s.isDue setup child then s.take (.expire child) else (s, [])
  | .pass time => ({ s with clock := s.clock + time }, [])
  | .request r =>
    let s' := { s with arrived := s.arrived + 1 }
    if s.phase.isListening then
      ({ s' with underWay := s.underWay ++ [(s.arrived, r)] }, [.accepted s.arrived])
    else (s', [.refused s.arrived])
  | .answer number =>
    match s.underWay.lookup number with
    | none => (s, [])
    | some r =>
      let (history, answer) := setup.router.handle s.supervisor.state s.history r
      ({ s with history := history, underWay := s.underWay.filter (·.1 != number) },
        [.answered number answer])
  | .signal =>
    if s.phase = .serving then
      { s with phase := .stopping s.supervisor.calls.length }.take .stop
    else (s, [])
  | .close =>
    match s.phase with
    | .stopping call =>
      match s.stopped? call with
      | some result => ({ s with phase := .draining result }, [])
      | none => (s, [])
    | _ => (s, [])
  | .finish =>
    match s.phase with
    | .draining result =>
      (if s.underWay.isEmpty then { s with phase := .ended result } else s, [])
    | _ => (s, [])

/-- A list of moves. -/
def exec (setup : Setup) (s : Server) : List Move → Server × List Event
  | [] => (s, [])
  | m :: rest =>
    let (s, first) := s.step setup m
    let (s, later) := s.exec setup rest
    (s, first ++ later)

end Server

end QueryConsole
