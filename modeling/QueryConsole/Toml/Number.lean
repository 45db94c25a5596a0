import QueryConsole.Calendar
import QueryConsole.Double.Basic
import QueryConsole.Text.Digits
import QueryConsole.Toml.Text
import QueryConsole.Toml.Value

/-!
# Numbers, dates and times in TOML

## Main definitions

- `Toml.moment`: a date, a time of day, or a date with a time
- `Toml.float`: a floating-point number
- `Toml.integer`: a whole number of 64 bits
- `Toml.number`: any of these
-/

namespace QueryConsole

namespace Toml

/-! ### Dates and times -/

/-- What follows a date. -/
def date (cs : List Char) : Option (List Char) := do
  let (year, rest) ← Text.fixed 0 4 cs
  let (month, rest) ← Text.pair 1 12 (← Text.expect '-' rest)
  let (_, rest) ← Text.pair 1 (Calendar.daysIn year month) (← Text.expect '-' rest)
  return rest

/-- What follows the fraction of a second, if there is one. -/
def skipFraction : List Char → List Char
  | '.' :: c :: rest => if c.isDigit then rest.dropWhile Char.isDigit else '.' :: c :: rest
  | cs => cs

/-- What follows a time of day. The sixtieth second is the leap second. -/
def time (cs : List Char) : Option (List Char) := do
  let (_, rest) ← Text.pair 0 23 cs
  let (_, rest) ← Text.pair 0 59 (← Text.expect ':' rest)
  let (_, rest) ← Text.pair 0 60 (← Text.expect ':' rest)
  return skipFraction rest

/-- What follows an offset from universal time. -/
def zone : List Char → Option (List Char)
  | c :: rest =>
    if c = 'Z' ∨ c = 'z' then some rest
    else if c = '+' ∨ c = '-' then do
      let (_, rest) ← Text.pair 0 23 rest
      let (_, rest) ← Text.pair 0 59 (← Text.expect ':' rest)
      return rest
    else none
  | [] => none

/-- What follows the time of day that belongs to a date, if there is one. -/
def skipTime : List Char → List Char
  | c :: rest =>
    if c = 'T' ∨ c = 't' ∨ c = ' ' then
      match time rest with
      | none => c :: rest
      | some rest => (zone rest).getD rest
    else c :: rest
  | [] => []

/-- What follows a date, a time of day, or a date with a time. -/
def moment (cs : List Char) : Option (List Char) :=
  (date cs).map skipTime <|> time cs

/-! ### Numbers -/

/-- Digits, read on behind others; an underscore may stand between two. -/
def digitsFrom (isDigit : Char → Bool) (done : List Char) :
    List Char → Option (List Char × List Char)
  | '_' :: c :: rest => if isDigit c then digitsFrom isDigit (c :: done) rest else none
  | c :: rest =>
    if isDigit c then digitsFrom isDigit (c :: done) rest else some (done.reverse, c :: rest)
  | [] => some (done.reverse, [])

/-- One digit or more. -/
def digits (isDigit : Char → Bool) : List Char → Option (List Char × List Char)
  | c :: rest => if isDigit c then digitsFrom isDigit [c] rest else none
  | [] => none

/-- The number that digits make in a base. -/
def valueIn (base : Nat) (digits : List Char) : Nat :=
  digits.foldl (fun n c => n * base + (Text.digitValue c).getD 0) 0

/-- The sign of a number: whether it is a minus, and what follows it. -/
def sign : List Char → Bool × List Char
  | '+' :: rest => (false, rest)
  | '-' :: rest => (true, rest)
  | cs => (false, cs)

/-- A sign and decimal digits, the first of which is zero only if it is the only one. -/
def decimal (cs : List Char) : Option (Bool × List Char × List Char) :=
  match sign cs with
  | (negative, '0' :: rest) => some (negative, ['0'], rest)
  | (negative, rest) => (digits Char.isDigit rest).map fun (ds, rest) => (negative, ds, rest)

/-- The largest number of 64 bits with a sign. -/
def greatestInteger : Nat := Nat.pow 2 63 - 1

/-- A whole number, unless it is too large. -/
def bounded (negative : Bool) (n : Nat) : Option Int :=
  if negative then
    if n ≤ greatestInteger + 1 then some (-(n : Int)) else none
  else if n ≤ greatestInteger then some n else none

/-- A whole number in the base of its leading letter. -/
def based (base : Nat) (isDigit : Char → Bool) (cs : List Char) : Option (Int × List Char) := do
  let (ds, rest) ← digits isDigit cs
  return (← bounded false (valueIn base ds), rest)

/-- A whole number of 64 bits. -/
def integer : List Char → Option (Int × List Char)
  | '0' :: 'x' :: rest => based 16 (fun c => (Text.digitIn 16 c).isSome) rest
  | '0' :: 'o' :: rest => based 8 (fun c => '0' ≤ c && c ≤ '7') rest
  | '0' :: 'b' :: rest => based 2 (fun c => c == '0' || c == '1') rest
  | cs => do
    let (negative, ds, rest) ← decimal cs
    return (← bounded negative (valueIn 10 ds), rest)

/-- The digits of a fraction, and what follows it. -/
def fraction : List Char → Option (List Char × List Char)
  | '.' :: rest => digits Char.isDigit rest
  | _ => none

/-- An exponent, and what follows it. -/
def exponent : List Char → Option (Int × List Char)
  | c :: rest =>
    if c = 'e' ∨ c = 'E' then do
      let (negative, rest) := sign rest
      let (ds, rest) ← digits Char.isDigit rest
      let n : Int := valueIn 10 ds
      return (if negative then -n else n, rest)
    else none
  | [] => none

/-- Whether the decimal `significand * 10 ^ exponent` is too large for a double. A significand of
so many digits and its exponent tell without computing the power when they are far apart. -/
def tooLarge (significand : Nat) (exponent : Int) : Bool :=
  let places := exponent + (Nat.toDigits 10 significand).length
  if significand = 0 ∨ places < -400 then false
  else if 400 < places then true
  else (Double.ofRatio false (significand * Double.tenTo exponent.toNat)
    (Double.tenTo (-exponent).toNat)).isNone

/-- What follows a number with a fraction or an exponent. One that is too large is refused, but
its negative is not. -/
def pointed (cs : List Char) : Option (List Char) := do
  let (negative, whole, rest) ← decimal cs
  let (places, power, rest) ← match exponent rest with
    | some (power, rest) => some ([], power, rest)
    | none => do
      let (places, rest) ← fraction rest
      match exponent rest with
      | some (power, rest) => some (places, power, rest)
      | none => some (places, 0, rest)
  if !negative ∧ tooLarge (valueIn 10 (whole ++ places)) (power - places.length) then none
  else some rest

/-- What follows one of the numbers that have names. -/
def special (cs : List Char) : Option (List Char) :=
  match (sign cs).2 with
  | 'i' :: 'n' :: 'f' :: rest => some rest
  | 'n' :: 'a' :: 'n' :: rest => some rest
  | _ => none

/-- What follows a floating-point number. -/
def float (cs : List Char) : Option (List Char) :=
  pointed cs <|> special cs

/-- A number, a date or a time. -/
def number (cs : List Char) : Option (Value × List Char) :=
  (moment cs).map (Prod.mk .moment) <|> (float cs).map (Prod.mk .float) <|>
    (integer cs).map fun (n, rest) => (.integer n, rest)

end Toml

end QueryConsole
