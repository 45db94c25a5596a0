import QueryConsole.Text.Lines
import QueryConsole.Text.Quoted
import QueryConsole.Text.Utf8

/-!
# The supervised daemon

## Main definitions

- `Supervisor.State`: the life of the daemon as others see it
- `Supervisor.ExitStatus`: how a process ended
- `Supervisor.StartFault`: why a start was refused
- `Supervisor.records`: the lines that are logged of a stream
-/

namespace QueryConsole

namespace Supervisor

/-- The life of the daemon as others see it. -/
inductive State
  | stopped
  | starting
  | running
  | stopping
  deriving DecidableEq, Repr

/-- The name of a state. -/
def State.name : State → String
  | .stopped => "stopped"
  | .starting => "starting"
  | .running => "running"
  | .stopping => "stopping"

/-- How a process ended: with a code of its own, or by a signal. -/
inductive ExitStatus
  | code (n : Nat)
  | signal (n : Nat)
  deriving DecidableEq, Repr

/-- The end of a process that asks for a code. The system keeps eight bits of it. -/
def ExitStatus.ofCode (n : Nat) : ExitStatus := .code (n % 256)

/-- The signal that asks a process to end. -/
def terminate : Nat := 15

/-- The signal that ends every process. -/
def kill : Nat := 9

/-- What is logged when a process has ended. -/
def ExitStatus.record : ExitStatus → String
  | .code n => s!"Daemon process exited with code {n}"
  | .signal n => s!"Daemon process terminated by signal {n}"

/-- A program that could not be spawned. -/
structure SpawnFault where
  path : String
  cause : String
  deriving DecidableEq, Repr

/-- Why a start was refused. -/
inductive StartFault
  /-- the daemon is not stopped -/
  | active (state : State)
  /-- its program could not be spawned -/
  | spawn (fault : SpawnFault)
  deriving DecidableEq, Repr

/-- The wording of a refused start. -/
def StartFault.message : StartFault → String
  | .active state => s!"Daemon is already {state.name}"
  | .spawn fault =>
    s!"Failed to spawn daemon {Text.quote fault.path}: {fault.cause}"

/-! ### Output -/

/-- A line without the carriage returns and line feeds at its end. -/
def trimLine (cs : List Char) : List Char :=
  (cs.reverse.dropWhile fun c => c == '\r' || c == '\n').reverse

/-- The lines that are logged of a stream: one for each of its lines, also an unfinished last one,
read leniently. -/
def records (bytes : List UInt8) : List (List Char) :=
  (Text.cutLines bytes).map fun line => trimLine (Utf8.decodeLossy line)

end Supervisor

end QueryConsole
