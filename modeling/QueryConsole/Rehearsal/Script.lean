import QueryConsole.Json.Decode
import QueryConsole.Live.Slot

/-!
# Scripted daemons

## Main definitions

- `Rehearsal.Cue`: an answer, when it is given, and what else happens just before
- `Rehearsal.Script`: the answers to each query in turn
- `Rehearsal.Script.cue`: the answer to a query that was sent so many times before
-/

namespace QueryConsole

namespace Rehearsal

/-- A scripted answer. `α` is what can be done to the rehearsed console while the answer is on its
way. -/
structure Cue (α : Type) where
  outcome : Outcome
  /-- how long after the query the answer is given -/
  delay : Nat := 0
  /-- done after the delay, just before the answer is given -/
  during : Option α := none
  deriving Repr

/-- What a scripted daemon answers. -/
structure Script (α : Type) where
  /-- the answers to some queries, in turn; the last one repeats -/
  cues : List (String × List (Cue α))
  /-- the answer to all other queries -/
  otherwise : Cue α
  deriving Repr

namespace Script

variable {α : Type}

/-- The answer to a query that was sent so many times before. -/
def cue (s : Script α) (before : Nat) (query : String) : Cue α :=
  match s.cues.lookup query with
  | none => s.otherwise
  | some cues => (cues[before]? <|> cues.getLast?).getD s.otherwise

end Script

/-- The outcome of a query whose answer has a body, which must be JSON. -/
def outcomeOf (body : String) : Outcome :=
  match Json.decode? (Utf8.bytesOf body) with
  | some v => .ok (.discriminate v)
  | none => .error (.serialization "malformed body")

end Rehearsal

end QueryConsole
