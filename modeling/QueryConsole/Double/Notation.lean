import QueryConsole.Double.Shortest

/-!
# Written doubles

## Main definitions

- `Double.Style`: the decisions of a written form
- `Double.Style.json`: the form used in JSON texts and in messages
- `Double.render`: a double in a style
-/

namespace QueryConsole

namespace Double

/-- The decisions of a written form. -/
structure Style where
  /-- the least exponent of the first digit written without an exponent part -/
  positionalFrom : Int
  /-- the greatest exponent of the first digit written without an exponent part -/
  positionalTo : Int
  /-- what stands before the exponent when it is not negative -/
  plus : String
  deriving DecidableEq, Repr

/-- Numbers from `0.00001` to below `1e+16` are written out, with `.0` after a whole one; a
positive exponent carries its sign. -/
def Style.json : Style := ⟨-5, 15, "+"⟩

/-- Digits with a point after `count` of them, and `.0` when none are left. -/
def pointed (digits : List Char) (count : Nat) : List Char :=
  let whole := digits.take count ++ List.replicate (count - digits.length) '0'
  let fraction := digits.drop count
  whole ++ '.' :: (if fraction.isEmpty then ['0'] else fraction)

/-- Digits written out, the first at the given exponent. -/
def positional (digits : List Char) (first : Int) : List Char :=
  if first ≥ 0 then pointed digits (first.toNat + 1)
  else '0' :: '.' :: (List.replicate (-first - 1).toNat '0' ++ digits)

/-- Digits with one before the point, and the exponent. -/
def scientific (style : Style) (digits : List Char) (first : Int) : List Char :=
  let mantissa := match digits with
    | [] => []
    | [d] => [d]
    | d :: more => d :: '.' :: more
  let sign := if first < 0 then ['-'] else style.plus.toList
  mantissa ++ 'e' :: (sign ++ decimalDigits first.natAbs)

/-- The magnitude of a double. -/
def renderMagnitude (style : Style) (x : Double) : List Char :=
  if x.isZero then ['0', '.', '0']
  else
    let d := x.shortest
    let digits := decimalDigits d.digits
    let first := d.exponent + digits.length - 1
    if style.positionalFrom ≤ first ∧ first ≤ style.positionalTo then positional digits first
    else scientific style digits first

/-- A double in a style. -/
def render (style : Style) (x : Double) : String :=
  String.ofList ((if x.negative then ['-'] else []) ++ renderMagnitude style x)

end Double

end QueryConsole
