/-!
# Spans of time

## Main definitions

- `Text.span`: a number of milliseconds in the largest unit that it fills
-/

namespace QueryConsole

namespace Text

/-- The digits of thousandths behind the point, without zeros at the end. -/
def thousandths (n : Nat) : List Char :=
  let digits := [Nat.digitChar (n / 100), Nat.digitChar (n / 10 % 10), Nat.digitChar (n % 10)]
  (digits.reverse.dropWhile (· == '0')).reverse

/-- A span of milliseconds as it is shown in messages: in seconds from one second on. -/
def span (ms : Nat) : String :=
  if ms = 0 then "0ns"
  else if ms < 1000 then s!"{ms}ms"
  else if ms % 1000 = 0 then s!"{ms / 1000}s"
  else s!"{ms / 1000}." ++ String.ofList (thousandths (ms % 1000)) ++ "s"

end Text

end QueryConsole
