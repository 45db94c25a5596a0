import QueryConsole.Json.Basic
import QueryConsole.Json.Grammar
import QueryConsole.Text.Utf8

/-!
# Decoding JSON

The full reading: texts become characters, numerals become numbers. Beyond the grammar it wants
texts in UTF-8, surrogate escapes in pairs, numbers within the range of doubles, and at most 127
lists and objects inside one another. An object under one key of its own holds another JSON text,
and stands for the value of that.

## Main definitions

- `Json.content`: the bytes a text stands for
- `Json.Numeral.value`: the number a numeral stands for
- `Json.embeddedKey`: the key of an object that holds another JSON text
- `Json.Part`: what is read for a value
- `Json.decoding`: the full reading
- `Json.decode`: the value of a JSON text
-/

namespace QueryConsole

namespace Json

/-- Where in a text the decoder stands. -/
inductive Place
  /-- between characters -/
  | plain
  /-- after a backslash -/
  | escape
  /-- among the digits of a code unit, perhaps the second of a pair -/
  | code (digits : List UInt8) (high : Option Nat)
  /-- behind the first unit of a pair, before a backslash -/
  | pair (high : Nat)
  /-- behind the first unit of a pair and a backslash -/
  | pairEscape (high : Nat)
  deriving DecidableEq, Repr

/-- The first units of surrogate pairs. -/
def isHigh (unit : Nat) : Bool := 0xD800 ≤ unit && unit ≤ 0xDBFF

/-- The second units of surrogate pairs. -/
def isLow (unit : Nat) : Bool := 0xDC00 ≤ unit && unit ≤ 0xDFFF

/-- What a code unit leads to: the bytes it completes, and the place behind it. -/
def unitEnd (unit : Nat) : Option Nat → Option (List UInt8 × Place)
  | none =>
    if isHigh unit then some ([], .pair unit)
    else if isLow unit then none
    else some (Utf8.encode [Char.ofNat unit], .plain)
  | some high =>
    if isLow unit then
      some (Utf8.encode [Char.ofNat (0x10000 + (high - 0xD800) * 0x400 + (unit - 0xDC00))], .plain)
    else none

/-- The bytes that a text after its opening quote stands for, last first, and what follows its
closing quote. -/
def contentFrom (done : List UInt8) : Place → List UInt8 →
    Except Fault (List UInt8 × List UInt8)
  | _, [] => .error (.behind .endInText [])
  | .plain, b :: rest =>
    if b = 0x22 then .ok (done, rest)
    else if b = 0x5C then contentFrom done .escape rest
    else if b < 0x20 then .error (.behind .controlCharacter (b :: rest))
    else contentFrom (b :: done) .plain rest
  | .escape, b :: rest =>
    if b = 0x75 then contentFrom done (.code [] none) rest
    else match escapeValue b with
      | some c => contentFrom (c :: done) .plain rest
      | none => .error (.behind .badEscape rest)
  | .code digits high, b :: rest =>
    if digits.length < 3 then contentFrom done (.code (digits ++ [b]) high) rest
    else match hexCode (digits ++ [b]) with
      | none => .error (.behind .badEscape rest)
      | some unit => match unitEnd unit high with
        | none => .error (.behind .surrogate rest)
        | some (bytes, place) => contentFrom (bytes.reverse ++ done) place rest
  | .pair high, b :: rest =>
    if b = 0x5C then contentFrom done (.pairEscape high) rest
    else .error (.behind .surrogate rest)
  | .pairEscape high, b :: rest =>
    if b = 0x75 then contentFrom done (.code [] (some high)) rest
    else .error (.behind .surrogate rest)

/-- A text after its opening quote, and what follows its closing quote. -/
def content (bytes : List UInt8) : Except Fault (String × List UInt8) := do
  let (done, rest) ← contentFrom [] .plain bytes
  match Utf8.decode? done.reverse with
  | some cs => .ok (String.ofList cs, rest)
  | none => .error (.behind .encoding rest)

/-- The value of decimal digits. -/
def digitsValue (digits : List UInt8) : Nat :=
  digits.foldl (fun n b => n * 10 + (b.toNat - 0x30)) 0

/-- How many numbers of 64 bits there are. -/
def wordSize : Nat := Nat.pow 2 64

/-- As many leading digits as make a number of 64 bits after the digits that make `n`, and how many
were taken. -/
def leadingValue (n : Nat) : List UInt8 → Nat × Nat
  | [] => (n, 0)
  | b :: rest =>
    let m := n * 10 + (b.toNat - 0x30)
    if m < wordSize then
      let (value, taken) := leadingValue m rest
      (value, taken + 1)
    else (n, 0)

/-- The exponent part of a numeral. -/
def Numeral.power (n : Numeral) : Int :=
  match n.exponent with
  | none => 0
  | some (negative, digits) =>
    if negative then -(digitsValue digits : Int) else digitsValue digits

/-- The decimal a numeral is read as. Only the digits that fit 64 bits count; those of the whole
part behind them still count as places, those of the fraction do not. -/
def Numeral.decimal (n : Numeral) : Nat × Int :=
  let (whole, taken) := leadingValue 0 n.whole
  let dropped := n.whole.length - taken
  let (significand, places) := leadingValue whole (n.fraction.getD [])
  (significand, (dropped : Int) - places + n.power)

/-- The double a numeral is read as; absent when it is too large. -/
def Numeral.double (n : Numeral) : Option Double := do
  let (significand, exponent) := n.decimal
  let x ← Double.ofDecimal significand exponent
  return if n.negative then x.negate else x

/-- The number a numeral stands for. A numeral without fraction and exponent is a whole number if
it lies from `-2 ^ 63` to `2 ^ 64 - 1` and is not a negative zero; all others are doubles. -/
def Numeral.value (n : Numeral) : Option Json :=
  let whole := digitsValue n.whole
  if n.fraction = none ∧ n.exponent = none ∧ !n.negative ∧ whole < wordSize then
    some (.integer whole)
  else if n.fraction = none ∧ n.exponent = none ∧ n.negative ∧ 0 < whole ∧ whole ≤ wordSize / 2 then
    some (.integer (-(whole : Int)))
  else n.double.map .double

/-- How many lists and objects may lie inside one another. -/
def greatestDepth : Nat := 127

/-- The key under which an object holds another JSON text, if it is the first key. -/
def embeddedKey : String := "$serde_json::private::RawValue"

/-- What is read for a value. A text is kept apart from an object that stands for one, because only
a text may be the member that holds another JSON text. -/
inductive Part
  /-- a text, written as one -/
  | written (s : String)
  /-- any other value -/
  | other (value : Json)

/-- The value that was read. -/
def Part.value : Part → Json
  | .written s => .text s
  | .other value => value

/-- The value of an object's members, when `inner` reads the JSON texts inside of others. Such a
text must be written as a text, and be the only member. -/
def objectValue (inner : List UInt8 → Option Json) (members : List (String × Part)) : Option Json :=
  match members with
  | (key, part) :: rest =>
    if key = embeddedKey then
      match part, rest with
      | .written s, [] => inner (Utf8.bytesOf s)
      | _, _ => none
    else some (.object (putAll (members.map fun (key, part) => (key, part.value))))
  | [] => some (.object [])

/-- The full reading, when `inner` reads the JSON texts inside of others. -/
def decodingWith (inner : List UInt8 → Option Json) : Reading Part String where
  depth := some greatestDepth
  text := content
  number n := n.value.map .other
  null := .other .null
  bool b := .other (.bool b)
  ofText := .written
  list parts := .other (.list (parts.map Part.value))
  object members := (objectValue inner members).map .other

/-- The full reading, with JSON texts inside of one another at most so many times. -/
def decoding : Nat → Reading Part String
  | 0 => decodingWith fun _ => none
  | levels + 1 => decodingWith fun bytes =>
    ((decoding levels).read bytes).toOption.map Part.value

/-- The value of a JSON text. A text inside of another one is shorter, so there are no more of them
than bytes. -/
def decode (bytes : List UInt8) : Except Fault Json := do
  return (← (decoding bytes.length).read bytes).value

/-- The value of a JSON text, without the reason when it has none. -/
def decode? (bytes : List UInt8) : Option Json :=
  (decode bytes).toOption

end Json

end QueryConsole
