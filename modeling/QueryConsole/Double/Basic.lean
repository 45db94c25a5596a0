/-!
# Finite binary doubles

Numbers of 53 binary digits, exact in natural-number arithmetic. A magnitude is a significand times
a power of two; it is canonical when the significand has 53 digits, or the exponent is the least
one. Results of arithmetic are the nearest canonical value, ties to the even significand, and are
absent when they are too large.

## Main definitions

- `Double`: a sign and a canonical magnitude
- `Double.ofRatio`: the double nearest to a fraction
- `Double.times`, `Double.dividedBy`: rounded products and quotients
- `Double.ofDecimal`: the double read from a decimal significand and exponent
-/

namespace QueryConsole

/-- A finite binary double: `significand * 2 ^ exponent`, with a sign. -/
structure Double where
  negative : Bool
  significand : Nat
  exponent : Int
  deriving DecidableEq, Repr

namespace Double

/-- The exponent of the finest doubles. -/
def leastExponent : Int := -1074

/-- The exponent of the coarsest doubles. -/
def greatestExponent : Int := 971

/-- Zero with a sign. -/
def zero (negative : Bool) : Double := ⟨negative, 0, leastExponent⟩

/-- Whether the magnitude is zero. -/
def isZero (x : Double) : Bool := x.significand == 0

/-- The natural number nearest to `num / den`; a tie goes to the even one. -/
def nearest (num den : Nat) : Nat :=
  let q := num / den
  let r := num % den
  if 2 * r < den then q else if 2 * r > den then q + 1 else q + q % 2

/-- A power of two. -/
abbrev twoTo (n : Nat) : Nat := Nat.pow 2 n

/-- A power of ten. -/
abbrev tenTo (n : Nat) : Nat := Nat.pow 10 n

/-- The fraction `num / den` divided by `2 ^ e`. -/
def shifted (num den : Nat) (e : Int) : Nat × Nat :=
  (num * twoTo (-e).toNat, den * twoTo e.toNat)

/-- The exponent at which the fraction has 53 digits before the point, or the least exponent when
that is larger. -/
def exponentFor (num den : Nat) : Int :=
  let guess : Int := (num.log2 : Int) - den.log2 - 53
  let (n, d) := shifted num den guess
  let e := if n / d < twoTo 53 then guess else guess + 1
  max e leastExponent

/-- The double nearest to `num / den`, which must not be negative; absent when it is too large. -/
def ofRatio (negative : Bool) (num den : Nat) : Option Double :=
  if num = 0 then some (zero negative)
  else
    let e := exponentFor num den
    let (n, d) := shifted num den e
    let s := nearest n d
    let (s, e) := if s = twoTo 53 then (twoTo 52, e + 1) else (s, e)
    if e > greatestExponent then none else some ⟨negative, s, e⟩

/-- The double nearest to a natural number. -/
def ofNat (n : Nat) : Option Double :=
  ofRatio false n 1

/-- The rounded product of two magnitudes, under the sign of the first. -/
def times (x y : Double) : Option Double :=
  let (n, d) := shifted (x.significand * y.significand) 1 (-(x.exponent + y.exponent))
  ofRatio x.negative n d

/-- The rounded quotient of two magnitudes, under the sign of the first. -/
def dividedBy (x y : Double) : Option Double :=
  let (n, d) := shifted x.significand y.significand (-(x.exponent - y.exponent))
  ofRatio x.negative n d

/-- The opposite number. -/
def negate (x : Double) : Double := { x with negative := !x.negative }

/-- The largest power of ten that a single scaling step multiplies or divides by. -/
def greatestPower : Nat := 308

/-- The double read from `significand * 10 ^ exponent`: the significand is rounded first and then
multiplied or divided by a rounded power of ten, in two divisions below `10 ^ -308`. Absent when
the number is too large; a number below `10 ^ -616` times its significand vanishes. -/
def ofDecimal (significand : Nat) (exponent : Int) : Option Double := do
  let whole ← ofNat significand
  if whole.isZero then return whole
  if exponent > greatestPower then none
  else if exponent ≥ 0 then whole.times (← ofNat (tenTo exponent.toNat))
  else if exponent ≥ -greatestPower then whole.dividedBy (← ofNat (tenTo (-exponent).toNat))
  else if exponent ≥ -(2 * greatestPower) then
    let small ← whole.dividedBy (← ofNat (tenTo greatestPower))
    small.dividedBy (← ofNat (tenTo (-exponent - greatestPower).toNat))
  else return zero false

end Double

end QueryConsole
