import QueryConsole.Double.Basic

/-!
# Shortest decimals of doubles

Every positive double owns the interval of numbers that round to it. Of the decimals in that
interval the shortest is wanted, and of the shortest the nearest. Both neighbours of the double on
the grid of one digit are tried, then those on the grid of two digits, and so on; seventeen digits
are always enough.

## Main definitions

- `Decimal`: a whole number times a power of ten
- `Double.owns`: whether a decimal rounds to a double
- `Double.shortest`: the shortest decimal of a double
-/

namespace QueryConsole

/-- The number `digits * 10 ^ exponent`. -/
structure Decimal where
  digits : Nat
  exponent : Int
  deriving DecidableEq, Repr

/-- The decimal digits of a natural number, the first one not zero unless it is the only one. -/
def decimalDigits (n : Nat) : List Char :=
  Nat.toDigits 10 n

namespace Double

/-- The ends of the interval that rounds to a double, in quarters of its unit: the lower half is
shorter where the exponent changes. -/
def quarters (x : Double) : Nat × Nat :=
  let m := 4 * x.significand
  (if x.significand = twoTo 52 ∧ x.exponent > leastExponent then m - 1 else m - 2, m + 2)

/-- `a * 10 ^ p` and `b * 2 ^ e`, both times the same natural number. -/
def aligned (a : Nat) (p : Int) (b : Nat) (e : Int) : Nat × Nat :=
  (a * tenTo p.toNat * twoTo (-e).toNat, b * twoTo e.toNat * tenTo (-p).toNat)

/-- Whether a decimal lies in the interval of a positive double; the ends belong to it when the
significand is even. -/
def owns (x : Double) (d : Decimal) : Bool :=
  let (low, high) := x.quarters
  let (a, l) := aligned d.digits d.exponent low (x.exponent - 2)
  let (b, h) := aligned d.digits d.exponent high (x.exponent - 2)
  if x.significand % 2 = 0 then l ≤ a && b ≤ h else l < a && b < h

/-- A positive double as a fraction. -/
def ratio (x : Double) : Nat × Nat :=
  (x.significand * twoTo x.exponent.toNat, twoTo (-x.exponent).toNat)

/-- The exponent of the first decimal digit of a positive fraction. -/
def leadingExponent (num den : Nat) : Int :=
  if num ≥ den then (decimalDigits (num / den)).length - 1
  else -((decimalDigits ((den + num - 1) / num - 1)).length : Int)

/-- The nearer of the double's two neighbours on the grid of `count` digits that round to it; of
two equally near ones the even one. -/
def onGrid (x : Double) (count : Nat) : Option Decimal :=
  let (num, den) := x.ratio
  let p := leadingExponent num den - count + 1
  let n := num * tenTo (-p).toNat
  let d := den * tenTo p.toNat
  let below : Decimal := ⟨n / d, p⟩
  let above : Decimal := ⟨n / d + 1, p⟩
  let lowFits := x.owns below
  let highFits := x.owns above
  if lowFits && highFits then some ⟨nearest n d, p⟩
  else if lowFits then some below
  else if highFits then some above
  else none

/-- A decimal without zeros at the end of its digits; at most `fuel` of them are taken off. -/
def withoutZeros : Nat → Decimal → Decimal
  | 0, d => d
  | fuel + 1, d =>
    if d.digits % 10 = 0 ∧ d.digits ≠ 0 then withoutZeros fuel ⟨d.digits / 10, d.exponent + 1⟩
    else d

/-- The shortest decimal that rounds to a positive double. -/
def shortest (x : Double) : Decimal :=
  match (List.range 17).findSome? (fun n => x.onGrid (n + 1)) with
  | some d => withoutZeros 17 d
  | none => ⟨0, 0⟩

end Double

end QueryConsole
