/-!
# Tickers

A ticker falls due once every period. Times are milliseconds. The next tick is planned from the
deadline of the last one, so that a ticker which is taken on time does not drift; one that is taken
late starts over from the moment it was taken, so that missed ticks are not made up.

## Main definitions

- `Ticker`: the next deadline and the period
- `Ticker.next`: the ticker after a tick is taken
- `Ticker.ready`: when a waiting owner takes the next tick
- `Ticker.takes`: the times of all ticks of an owner who is busy for a while after each
-/

namespace QueryConsole

/-- A periodic timer: when it falls due next, and its period. -/
structure Ticker where
  deadline : Nat
  period : Nat
  deriving DecidableEq, Repr

namespace Ticker

/-- The period used where none is given. -/
def defaultPeriod : Nat := 2000

/-- A tick counts as late when it is taken more than this long after its deadline. -/
def slack : Nat := 5

/-- A usable period: zero stands for the default. -/
def effective (period : Nat) : Nat :=
  if period = 0 then defaultPeriod else period

/-- A ticker that falls due for the first time one period from now. -/
def start (now period : Nat) : Ticker :=
  ⟨now + period, period⟩

/-- The ticker after its tick is taken. -/
def next (t : Ticker) (now : Nat) : Ticker :=
  ⟨(if now ≤ t.deadline + slack then t.deadline else now) + t.period, t.period⟩

/-- When an owner who waits from now on takes the next tick. -/
def ready (t : Ticker) (now : Nat) : Nat :=
  max now t.deadline

/-- The times at which an owner takes the ticks, who is free from a given time on and is then busy
for the listed whiles, one after each tick. -/
def takes (t : Ticker) (free : Nat) : List Nat → List Nat
  | [] => []
  | busy :: rest =>
    let now := t.ready free
    now :: takes (t.next now) (now + busy) rest

end Ticker

end QueryConsole
