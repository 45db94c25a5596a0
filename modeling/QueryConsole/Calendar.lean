/-!
# The calendar

Days are counted from the first day of the year 1, a Monday, by today's rule of leap years.

## Main definitions

- `Calendar.daysIn`: how many days a month has
- `Calendar.dayNumber`: the number of a day
- `Calendar.weekday`: the day of the week
- `Calendar.seconds`: a moment as a number of seconds
-/

namespace QueryConsole

namespace Calendar

/-- Whether a year has a leap day. -/
def isLeap (year : Nat) : Bool :=
  year % 4 == 0 && (year % 100 != 0 || year % 400 == 0)

/-- How many days a month has. -/
def daysIn (year month : Nat) : Nat :=
  if month = 2 then if isLeap year then 29 else 28
  else if month = 4 ∨ month = 6 ∨ month = 9 ∨ month = 11 then 30
  else 31

/-- How many days of a year are over when a month begins. -/
def daysBefore (year month : Nat) : Nat :=
  (List.range (month - 1)).foldl (fun n m => n + daysIn year (m + 1)) 0

/-- How many leap days there were before a year. -/
def leapDaysBefore (year : Nat) : Nat :=
  (year - 1) / 4 - (year - 1) / 100 + (year - 1) / 400

/-- How many days are over when a day begins. -/
def dayNumber (year month day : Nat) : Nat :=
  365 * (year - 1) + leapDaysBefore year + daysBefore year month + (day - 1)

/-- The day of the week, from 0 for Monday to 6 for Sunday. -/
def weekday (year month day : Nat) : Nat :=
  dayNumber year month day % 7

/-- The year from which seconds are counted. -/
def epoch : Nat := 1970

/-- How many seconds after the epoch a moment is. -/
def seconds (year month day secondOfDay : Nat) : Nat :=
  (dayNumber year month day - dayNumber epoch 1 1) * 86400 + secondOfDay

end Calendar

end QueryConsole
