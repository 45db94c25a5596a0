import QueryConsole.Calendar
import QueryConsole.Text.Blank
import QueryConsole.Text.Digits

/-!
# Dates in headers

A moment has three written forms: the one in use, and two older ones. In each of them the day of the
week must be that of the date.

    Sun, 06 Nov 1994 08:49:37 GMT
    Sunday, 06-Nov-94 08:49:37 GMT
    Sun Nov  6 08:49:37 1994

## Main definitions

- `Http.Date`: a date as it is written
- `Http.moment`: the moment that a header names
-/

namespace QueryConsole

namespace Http

/-- A date as it is written, with the time of day in seconds. -/
structure Date where
  /-- the day of the week, from 0 for Monday -/
  weekday : Nat
  year : Nat
  month : Nat
  day : Nat
  time : Nat
  deriving DecidableEq, Repr

namespace Date

/-- The days of the week. -/
def weekdays : List String :=
  ["Monday", "Tuesday", "Wednesday", "Thursday", "Friday", "Saturday", "Sunday"]

/-- The short names of the days of the week. -/
def shortWeekdays : List String := ["Mon", "Tue", "Wed", "Thu", "Fri", "Sat", "Sun"]

/-- The short names of the months. -/
def months : List String :=
  ["Jan", "Feb", "Mar", "Apr", "May", "Jun", "Jul", "Aug", "Sep", "Oct", "Nov", "Dec"]

/-- The place of the name that comes next, among all that could, and what follows it. -/
def oneOf (names : List String) (cs : List Char) : Option (Nat × List Char) :=
  names.zipIdx.findSome? fun (name, n) => (Text.expectText name cs).map (Prod.mk n)

/-- The month that comes next. -/
def nextMonth (cs : List Char) : Option (Nat × List Char) :=
  (oneOf months cs).map fun (n, rest) => (n + 1, rest)

/-- The time of day that comes next. -/
def nextTime (cs : List Char) : Option (Nat × List Char) := do
  let (hour, rest) ← Text.pair 0 23 cs
  let (minute, rest) ← Text.pair 0 59 (← Text.expect ':' rest)
  let (second, rest) ← Text.pair 0 59 (← Text.expect ':' rest)
  return (hour * 3600 + minute * 60 + second, rest)

/-- The form in use. -/
def modern (cs : List Char) : Option (Date × List Char) := do
  let (weekday, rest) ← oneOf shortWeekdays cs
  let (day, rest) ← Text.fixed 0 2 (← Text.expectText ", " rest)
  let (month, rest) ← nextMonth (← Text.expect ' ' rest)
  let (year, rest) ← Text.fixed 0 4 (← Text.expect ' ' rest)
  let (time, rest) ← nextTime (← Text.expect ' ' rest)
  return (⟨weekday, year, month, day, time⟩, ← Text.expectText " GMT" rest)

/-- The form with long names and short years, which lie between 1970 and 2069. Any one character
may stand between the year and the time of day. -/
def long (cs : List Char) : Option (Date × List Char) := do
  let (weekday, rest) ← oneOf weekdays cs
  let (day, rest) ← Text.fixed 0 2 (← Text.expectText ", " rest)
  let (month, rest) ← nextMonth (← Text.expect '-' rest)
  let (year, rest) ← Text.fixed 0 2 (← Text.expect '-' rest)
  let (time, rest) ← nextTime (← rest.tail?)
  return (⟨weekday, if year < 70 then 2000 + year else 1900 + year, month, day, time⟩,
    ← Text.expectText " GMT" rest)

/-- The form with the year at the end. A blank may stand for the first digit of the day. -/
def classic (cs : List Char) : Option (Date × List Char) := do
  let (weekday, rest) ← oneOf shortWeekdays cs
  let (month, rest) ← nextMonth (← Text.expect ' ' rest)
  let rest ← Text.expect ' ' rest
  let (day, rest) ← match rest with
    | ' ' :: rest => Text.fixed 0 1 rest
    | rest => Text.fixed 0 2 rest
  let (time, rest) ← nextTime (← Text.expect ' ' rest)
  let (year, rest) ← Text.fixed 0 4 (← Text.expect ' ' rest)
  return (⟨weekday, year, month, day, time⟩, rest)

/-- Whether there is such a day, and it is the day of the week that is said. -/
def isReal (d : Date) : Bool :=
  Calendar.epoch ≤ d.year && 1 ≤ d.day && d.day ≤ Calendar.daysIn d.year d.month &&
    d.weekday == Calendar.weekday d.year d.month d.day

/-- The seconds from the epoch to a date. -/
def seconds (d : Date) : Nat :=
  Calendar.seconds d.year d.month d.day d.time

/-- The date that is written in one of the three forms. -/
def parse (cs : List Char) : Option Date :=
  [modern, long, classic].findSome? fun form =>
    match form cs with
    | some (d, []) => some d
    | _ => none

end Date

/-- The moment that a header names, in seconds after the epoch. Blanks around the date do not
matter; a header with a character outside of ASCII names no moment. -/
def moment (header : String) : Option Nat :=
  let cs := header.toList
  if cs.all (·.toNat < 0x80) then
    ((Date.parse (Text.trimChars cs)).filter Date.isReal).map Date.seconds
  else none

end Http

end QueryConsole
