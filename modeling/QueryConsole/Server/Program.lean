import QueryConsole.Config.Load
import QueryConsole.Server.Address
import QueryConsole.Server.Trial

/-!
# The web server program

## Main definitions

- `Server.Surroundings`: what the program finds around it
- `Server.Result`: what it leaves behind
- `Server.program`: the whole program, from its start to a signal
-/

namespace QueryConsole

open Http (Request Answer)

namespace Server

/-- What the program finds around it. -/
structure Surroundings where
  /-- the files and programs, and the current directory -/
  machine : Supervisor.Machine
  vars : Config.Variables
  /-- when the files were changed last, in seconds after the epoch -/
  changed : Nat
  /-- whether somebody else listens at the address -/
  taken : Bool
  /-- whether connections to the program can be made -/
  up : Bool
  /-- the way to the daemon's queries -/
  wire : Http.Wire
  /-- how bodies are packed -/
  gzip : List UInt8 → List UInt8

/-- How a program is over: with a code, or by a signal. -/
abbrev ProgramEnd := Supervisor.ExitStatus

/-- What the program leaves behind. -/
structure Result where
  /-- whether it came to serve -/
  up : Bool
  answers : List (Option Answer)
  exit : ProgramEnd
  /-- what it wrote to its error stream -/
  stderr : String
  history : Http.History

/-- The program is over before it serves. -/
def refused (message : String) : Result :=
  ⟨false, [], .code 1, s!"Error: {message}\n", []⟩

/-- Whether the program can listen at an address. -/
def listen (around : Surroundings) (address : String) : Except String Unit := do
  Address.check address
  if around.taken then .error Address.inUse

/-- The signals that end the program in good order. -/
def isShutdown (signal : Nat) : Bool := signal == 2 || signal == 15

/-- The answers to requests over connections that can be made or not. -/
def answers (around : Surroundings) (router : Http.Router) (state : Supervisor.State)
    (requests : List Request) : Http.History × List (Option Answer) :=
  if around.up then
    let (history, answers) := router.handleAll state [] requests
    (history, answers.map some)
  else ([], requests.map fun _ => none)

/-- The program with its settings, from its start to a signal. -/
def serve (around : Surroundings) (config : Config) (requests : List Request) (signal : Nat) :
    Result :=
  match listen around config.server.bind with
  | .error cause => refused (Text.report s!"Failed to bind {config.server.bind}" [cause])
  | .ok _ =>
    let trial : Supervisor.Trial :=
      ⟨around.machine, ⟨config.daemon.binary, config.daemon.workingDir⟩, {}, [], {}⟩
    let trial := if config.daemon.autostart then trial.start.1 else trial
    let root := (around.machine.place.find config.server.staticDir).toOption.getD (.directory [])
    let site : Http.Site := ⟨config.server.staticDir, root, around.changed⟩
    let router : Http.Router := ⟨site, around.wire, config.daemon.requestTimeout, around.gzip⟩
    let (history, answers) := answers around router trial.supervisor.state requests
    ⟨true, answers, if isShutdown signal then .code 0 else .signal signal, "", history⟩

/-- The whole program, from its start to a signal. -/
def program (around : Surroundings) (requests : List Request) (signal : Nat) : Result :=
  match Config.load around.machine.place.find around.vars with
  | .error fault => refused fault.report
  | .ok config => serve around config requests signal

end Server

end QueryConsole
