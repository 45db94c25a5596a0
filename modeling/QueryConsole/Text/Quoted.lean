import QueryConsole.Text.Classes

/-!
# Quoted text for diagnostics

Text as it is shown inside an error message: between double quotes, with a backslash before what
would end the quotation, short escapes for the common controls, and the code point of everything
that could not be seen on a screen.

## Main definitions

- `Text.quote`: a quoted text
- `Text.hex`: a number in small hexadecimal digits
-/

namespace QueryConsole

namespace Text

/-- A number in hexadecimal, with small letters and no leading zero. -/
def hex (n : Nat) : List Char :=
  Nat.toDigits 16 n

/-- Whether a character would not be seen by itself on a screen. -/
def isUnseen (c : Char) : Bool :=
  isExtender c || isUnprintable c || isFiller c

/-- One character of a quoted text. -/
def quoteChar (c : Char) : List Char :=
  if c = '\x00' then ['\\', '0']
  else if c = '\t' then ['\\', 't']
  else if c = '\r' then ['\\', 'r']
  else if c = '\n' then ['\\', 'n']
  else if c = '\\' ∨ c = '"' then ['\\', c]
  else if isUnseen c then ['\\', 'u', '\x7b'] ++ hex c.toNat ++ ['\x7d']
  else [c]

/-- A text between double quotes. Apostrophes need no escape there. -/
def quote (s : String) : String :=
  String.ofList ('"' :: s.toList.flatMap quoteChar ++ ['"'])

end Text

end QueryConsole
