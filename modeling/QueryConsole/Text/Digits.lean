/-!
# Numbers in text

## Main definitions

- `Text.digitIn`: the value of a digit in some base
- `Text.numeral`: the number that a text of digits is
- `Text.fixed`: a number of so many digits at the front of a text
- `Text.expect`: a character that must come next
-/

namespace QueryConsole

namespace Text

/-- The value of a digit. The letters stand for ten and more. -/
def digitValue (c : Char) : Option Nat :=
  if '0' ≤ c ∧ c ≤ '9' then some (c.toNat - 0x30)
  else if 'a' ≤ c ∧ c ≤ 'z' then some (c.toNat - 0x57)
  else if 'A' ≤ c ∧ c ≤ 'Z' then some (c.toNat - 0x37)
  else none

/-- The value of a digit, if there is such a digit in the base. -/
def digitIn (base : Nat) (c : Char) : Option Nat :=
  (digitValue c).filter (· < base)

/-- The number that a text is which holds nothing but digits of the base, and at least one. -/
def numeral (base : Nat) (cs : List Char) : Option Nat :=
  if cs.isEmpty then none
  else (cs.mapM (digitIn base)).map fun ds => ds.foldl (fun n d => n * base + d) 0

/-- A number of exactly so many decimal digits, read on from `value`. -/
def fixed (value : Nat) : Nat → List Char → Option (Nat × List Char)
  | 0, cs => some (value, cs)
  | _ + 1, [] => none
  | n + 1, c :: rest => if c.isDigit then fixed (value * 10 + (c.toNat - 0x30)) n rest else none

/-- A number of two decimal digits within a range. -/
def pair (least greatest : Nat) (cs : List Char) : Option (Nat × List Char) := do
  let (n, rest) ← fixed 0 2 cs
  if least ≤ n ∧ n ≤ greatest then some (n, rest) else none

/-- What follows a character that must come next. -/
def expect (c : Char) : List Char → Option (List Char)
  | d :: rest => if d = c then some rest else none
  | [] => none

/-- What follows a text that must come next. -/
def expectText (s : String) (cs : List Char) : Option (List Char) :=
  s.toList.foldlM (fun rest c => expect c rest) cs

end Text

end QueryConsole
