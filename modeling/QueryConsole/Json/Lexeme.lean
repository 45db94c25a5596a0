/-!
# The lexical layer of JSON

What both readers of JSON texts share: blanks, the three literal words and numerals, and the
positions of faults. A fault records how many bytes were left behind the place it points to, so it
can be turned into a line and a column once the whole text is known.

## Main definitions

- `Json.Flaw`, `Json.Fault`: what is wrong, and where
- `Json.Fault.position`: the line and column of a fault
- `Json.skipBlank`, `Json.word`, `Json.numeral`: the shared lexemes
-/

namespace QueryConsole

namespace Json

/-- What can be wrong with a JSON text. -/
inductive Flaw
  | expectedValue
  | expectedWord
  | endInValue
  | endInText
  | endInList
  | endInObject
  | expectedColon
  | expectedCommaOrListEnd
  | expectedCommaOrObjectEnd
  | keyNotText
  | badNumber
  | badEscape
  | controlCharacter
  | trailing
  /-- too many values inside one another -/
  | nesting
  /-- a number too large for a double -/
  | range
  /-- half a surrogate pair -/
  | surrogate
  /-- a text that is not UTF-8 -/
  | encoding
  /-- an object that should be another JSON text, and is none -/
  | embedding
  deriving DecidableEq, Repr

/-- The wording of a flaw. -/
def Flaw.message : Flaw → String
  | .expectedValue => "expected value"
  | .expectedWord => "expected ident"
  | .endInValue => "EOF while parsing a value"
  | .endInText => "EOF while parsing a string"
  | .endInList => "EOF while parsing a list"
  | .endInObject => "EOF while parsing an object"
  | .expectedColon => "expected `:`"
  | .expectedCommaOrListEnd => "expected `,` or `]`"
  | .expectedCommaOrObjectEnd => "expected `,` or `\x7d`"
  | .keyNotText => "key must be a string"
  | .badNumber => "invalid number"
  | .badEscape => "invalid escape"
  | .controlCharacter => "control character (\\u0000-\\u001F) found while parsing a string"
  | .trailing => "trailing characters"
  | .nesting => "recursion limit exceeded"
  | .range => "number out of range"
  | .surrogate => "lone leading surrogate in hex escape"
  | .encoding => "invalid unicode code point"
  | .embedding => "invalid embedded text"

/-- A flaw and the number of bytes behind the place it points to. -/
structure Fault where
  flaw : Flaw
  left : Nat
  deriving DecidableEq, Repr

/-- A fault of the byte just taken, or of the end: it points to what has been read so far. -/
def Fault.behind (flaw : Flaw) (rest : List UInt8) : Fault := ⟨flaw, rest.length⟩

/-- A fault of the byte that comes next: it points behind that byte, or to the end. -/
def Fault.ahead (flaw : Flaw) (rest : List UInt8) : Fault := ⟨flaw, rest.length - 1⟩

/-- A place in a text. Lines count from one, columns are bytes since the last line feed. -/
structure Position where
  line : Nat
  column : Nat
  deriving DecidableEq, Repr

/-- The position after the given bytes. -/
def Position.after (bytes : List UInt8) : Position :=
  ⟨bytes.count 0x0A + 1, (bytes.reverse.takeWhile (· != 0x0A)).length⟩

/-- Where in a text a fault lies. -/
def Fault.position (f : Fault) (bytes : List UInt8) : Position :=
  Position.after (bytes.take (bytes.length - f.left))

/-- The full wording of a fault in a text. -/
def Fault.message (f : Fault) (bytes : List UInt8) : String :=
  let p := f.position bytes
  s!"{f.flaw.message} at line {p.line} column {p.column}"

/-- Space, tab, line feed and carriage return. -/
def isBlank (b : UInt8) : Bool :=
  b == 0x20 || b == 0x09 || b == 0x0A || b == 0x0D

/-- The bytes from the first that is not blank. -/
def skipBlank (bytes : List UInt8) : List UInt8 :=
  bytes.dropWhile isBlank

/-- The decimal digits. -/
def isDigit (b : UInt8) : Bool :=
  0x30 ≤ b && b ≤ 0x39

/-- The bytes behind the letters of a word. -/
def word : List UInt8 → List UInt8 → Except Fault (List UInt8)
  | [], bytes => .ok bytes
  | _ :: _, [] => .error (.behind .endInValue [])
  | w :: ws, b :: rest =>
    if b = w then word ws rest else .error (.behind .expectedWord rest)

/-- A numeral as it is written: the digits of its parts, and whether the exponent is negative. -/
structure Numeral where
  negative : Bool
  whole : List UInt8
  fraction : Option (List UInt8)
  exponent : Option (Bool × List UInt8)
  deriving DecidableEq, Repr

/-- The exponent of a numeral, if there is one. -/
def numeralExponent (bytes : List UInt8) :
    Except Fault (Option (Bool × List UInt8) × List UInt8) :=
  match bytes with
  | [] => .ok (none, [])
  | b :: rest =>
    if b = 0x65 ∨ b = 0x45 then
      let (negative, rest) := match rest with
        | [] => (false, [])
        | s :: more =>
          if s = 0x2D then (true, more) else if s = 0x2B then (false, more) else (false, s :: more)
      match rest with
      | [] => .error (.behind .badNumber [])
      | d :: more =>
        if isDigit d then
          .ok (some (negative, d :: more.takeWhile isDigit), more.dropWhile isDigit)
        else .error (.behind .badNumber more)
    else .ok (none, b :: rest)

/-- The fraction of a numeral, if there is one. -/
def numeralFraction (bytes : List UInt8) : Except Fault (Option (List UInt8) × List UInt8) :=
  match bytes with
  | [] => .ok (none, [])
  | b :: rest =>
    if b = 0x2E then
      let digits := rest.takeWhile isDigit
      let rest := rest.dropWhile isDigit
      if digits.isEmpty then .error (.ahead .badNumber rest) else .ok (some digits, rest)
    else .ok (none, b :: rest)

/-- The whole part of a numeral: a zero alone, or digits of which the first is not zero. -/
def numeralWhole (bytes : List UInt8) : Except Fault (List UInt8 × List UInt8) :=
  match bytes with
  | [] => .error (.behind .badNumber [])
  | b :: rest =>
    if b = 0x30 then
      match rest with
      | [] => .ok ([b], [])
      | d :: _ => if isDigit d then .error (.ahead .badNumber rest) else .ok ([b], rest)
    else if isDigit b then .ok (b :: rest.takeWhile isDigit, rest.dropWhile isDigit)
    else .error (.behind .badNumber rest)

/-- A numeral and the bytes behind it. -/
def numeral (bytes : List UInt8) : Except Fault (Numeral × List UInt8) := do
  let (negative, bytes) := match bytes with
    | [] => (false, [])
    | b :: rest => if b = 0x2D then (true, rest) else (false, b :: rest)
  let (whole, bytes) ← numeralWhole bytes
  let (fraction, bytes) ← numeralFraction bytes
  let (exponent, bytes) ← numeralExponent bytes
  return (⟨negative, whole, fraction, exponent⟩, bytes)

/-- The hexadecimal digits, capital or small. -/
def hexValue (b : UInt8) : Option Nat :=
  if 0x30 ≤ b ∧ b ≤ 0x39 then some (b.toNat - 0x30)
  else if 0x41 ≤ b ∧ b ≤ 0x46 then some (b.toNat - 0x37)
  else if 0x61 ≤ b ∧ b ≤ 0x66 then some (b.toNat - 0x57)
  else none

/-- The value of hexadecimal digits. -/
def hexCode (digits : List UInt8) : Option Nat :=
  digits.foldlM (fun n b => (hexValue b).map (n * 16 + ·)) 0

/-- What a letter after a backslash stands for, apart from `u`. -/
def escapeValue (b : UInt8) : Option UInt8 :=
  if b = 0x22 then some 0x22
  else if b = 0x5C then some 0x5C
  else if b = 0x2F then some 0x2F
  else if b = 0x62 then some 0x08
  else if b = 0x66 then some 0x0C
  else if b = 0x6E then some 0x0A
  else if b = 0x72 then some 0x0D
  else if b = 0x74 then some 0x09
  else none

end Json

end QueryConsole
