import QueryConsole.Rehearsal.World

/-!
# Rehearsing a live view alone

## Main definitions

- `Rehearsal.Viewer`: a live view in rehearsal
- `Rehearsal.Viewer.Deed`: what can be done to it
- `Rehearsal.Viewer.Answer`: what it says to that
- `Rehearsal.Viewer.step`: one deed, or a while of waiting
-/

namespace QueryConsole

namespace Rehearsal

/-- A live view in rehearsal; one that was dropped is gone for good. -/
structure Viewer where
  live : Live := {}
  renderer : Renderer := .html
  dropped : Bool := false

namespace Viewer

/-- What can be done to a live view. -/
inductive Deed
  | subscribe (table : String) (period : Nat)
  | release
  | drop
  deriving DecidableEq, Repr

/-- What a live view says to a deed. -/
inductive Answer
  | nothing
  /-- the query that the new poller sends -/
  | polls (query : String)
  /-- the table that was watched -/
  | released (table : Option String)
  /-- the live view is gone -/
  | gone
  deriving DecidableEq, Repr

/-- A deed is done. -/
def perform (v : Viewer) (now : Nat) (deed : Deed) : Viewer × Answer :=
  if v.dropped then (v, .gone)
  else match deed with
    | .subscribe table period =>
      ({ v with live := v.live.subscribe now period table }, .polls (Live.selectAll table))
    | .release => ({ v with live := v.live.release }, .released v.live.table)
    | .drop => ({ v with live := v.live.release, dropped := true }, .nothing)

/-- A live view as a subject of rehearsal. -/
def cast : Cast Viewer Deed where
  live := Viewer.live
  withLive v live := { v with live := live }
  renderer := Viewer.renderer
  perform v now deed := ((v.perform now deed).1, [])

/-- One deed, or a while of waiting if there is none, and then all that is due by that time. -/
def step (script : Script Deed) (w : World Viewer Deed) (ms : Nat) :
    Option Deed → World Viewer Deed × Answer
  | none => (w.advanceTo cast script (w.now + ms), .nothing)
  | some deed =>
    let (viewer, answer) := w.subject.perform w.now deed
    ({ w with subject := viewer }.advanceTo cast script w.now, answer)

end Viewer

end Rehearsal

end QueryConsole
