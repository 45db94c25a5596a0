import QueryConsole.Server.Run
import QueryConsole.Supervisor.Trial

/-!
# Serving with a scripted daemon

## Main definitions

- `Server.visit`: what its health was at each stage, and how the daemon ended
-/

namespace QueryConsole

namespace Server

/-- What a visitor found. -/
structure Visit where
  /-- the answers to questions for the health, where somebody was listening -/
  health : List (Option Http.Answer)
  /-- how the daemon ended -/
  exit : Option Supervisor.ExitStatus
  /-- the state at the end -/
  state : Supervisor.State

/-- The answer to a question for the health, over a connection that can be made or not. -/
def ask (up : Bool) (state : Supervisor.State) : Option Http.Answer :=
  if up then some (Http.Router.health state) else none

/-- A visitor asks for the health before the daemon is started; after it was started, if there is
one; while it is stopping, if it waits for that; and when serving is over. -/
def visit (up hasDaemon asksWhileStopping : Bool) (t : Supervisor.Trial) : Visit :=
  let before := ask up t.supervisor.state
  let t := if hasDaemon then t.start.1.wait else t
  let started := if hasDaemon then [ask up t.supervisor.state] else []
  let (t, call) := t.beginStop
  let stopping := if asksWhileStopping then [ask up t.supervisor.state] else []
  let (t, exit) := t.endStop call
  ⟨before :: started ++ stopping ++ [none], exit, t.supervisor.state⟩

end Server

end QueryConsole
