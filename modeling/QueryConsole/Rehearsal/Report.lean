import QueryConsole.Rehearsal.World

/-!
# What a rehearsal showed

## Main definitions

- `Rehearsal.World.sentSince`, `Rehearsal.World.shownSince`: the history after some moment
- `Rehearsal.World.current`, `Rehearsal.World.updates`: what a panel shows, and how often it changed
-/

namespace QueryConsole

namespace Rehearsal

namespace World

variable {σ α : Type}

/-- What was sent after an earlier moment, in order. -/
def sentSince (w earlier : World σ α) : List (Nat × String) :=
  (w.sent.take (w.sent.length - earlier.sent.length)).reverse

/-- What was shown after an earlier moment, in order. -/
def shownSince (w earlier : World σ α) : List (Nat × Update) :=
  (w.shown.take (w.shown.length - earlier.shown.length)).reverse

/-- The updates of a panel, the latest first. -/
def updatesTo (w : World σ α) (panel : Panel) : List Presentation :=
  w.shown.filterMap fun (_, target, content) => if target = panel then some content else none

/-- How often a panel was updated. -/
def updates (w : World σ α) (panel : Panel) : Nat :=
  (w.updatesTo panel).length

/-- What a panel shows. -/
def current (w : World σ α) (panel : Panel) : Option Presentation :=
  (w.updatesTo panel).head?

end World

end Rehearsal

end QueryConsole
