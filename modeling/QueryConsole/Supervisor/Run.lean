import QueryConsole.Supervisor.Step

/-!
# Runs of supervision

A call or a watch that has begun to work does not let go before it has to wait. Steps taken
together in this way make up a turn, and a run is a list of turns in any order.

## Main definitions

- `Supervisor.turn`: one move, and all the steps up to the next wait
- `Supervisor.run`: a list of turns
- `Supervisor.runSteps`: a list of single steps
-/

namespace QueryConsole

namespace Supervisor

/-- Whether whoever makes a move stands where it may be interrupted. -/
def rests (s : Supervisor) : Move → Bool
  | .call call _ => (s.calls[call]?).all Call.rests
  | .watch child _ => (s.children[child]?).all (·.watch.rests)
  | _ => true

/-- The steps that follow a move up to the next wait, at most so many. -/
def settle (m : Move) : Nat → Supervisor → Supervisor × List Event
  | 0, s => (s, [])
  | fuel + 1, s =>
    if s.rests m then (s, [])
    else
      let (s, first) := s.step m
      let (s, later) := settle m fuel s
      (s, first ++ later)

/-- No call takes more steps between two waits. -/
def longestTurn : Nat := 7

/-- One move, and all the steps up to the next wait. -/
def turn (s : Supervisor) (m : Move) : Supervisor × List Event :=
  let (s, first) := s.step m
  let (s, later) := settle m longestTurn s
  (s, first ++ later)

/-- A list of turns. -/
def run (s : Supervisor) : List Move → Supervisor × List Event
  | [] => (s, [])
  | m :: rest =>
    let (s, first) := s.turn m
    let (s, later) := s.run rest
    (s, first ++ later)

/-- A list of single steps. -/
def runSteps (s : Supervisor) : List Move → Supervisor × List Event
  | [] => (s, [])
  | m :: rest =>
    let (s, first) := s.step m
    let (s, later) := s.runSteps rest
    (s, first ++ later)

end Supervisor

end QueryConsole
