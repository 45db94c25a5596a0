import QueryConsole.Json.Grammar

/-!
# Checking JSON

The skipping reading: it tells whether a text follows the grammar and keeps nothing of it. It has
no limit on nesting, and does not look at what numerals, escapes and texts stand for.

## Main definitions

- `Json.skipText`: the bytes behind a text
- `Json.checking`: the skipping reading
- `Json.check`: whether a text follows the grammar, and where it does not
-/

namespace QueryConsole

namespace Json

/-- Where in a text the checker stands. -/
inductive Mark
  /-- between characters -/
  | plain
  /-- after a backslash -/
  | escape
  /-- among the digits of a code unit -/
  | code (digits : List UInt8)
  deriving DecidableEq, Repr

/-- The bytes behind the closing quote of a text. -/
def skipText : Mark → List UInt8 → Except Fault (List UInt8)
  | _, [] => .error (.behind .endInText [])
  | .plain, b :: rest =>
    if b = 0x22 then .ok rest
    else if b = 0x5C then skipText .escape rest
    else if b < 0x20 then .error (.behind .controlCharacter (b :: rest))
    else skipText .plain rest
  | .escape, b :: rest =>
    if b = 0x75 then skipText (.code []) rest
    else match escapeValue b with
      | some _ => skipText .plain rest
      | none => .error (.behind .badEscape rest)
  | .code digits, b :: rest =>
    if digits.length < 3 then skipText (.code (digits ++ [b])) rest
    else match hexCode (digits ++ [b]) with
      | some _ => skipText .plain rest
      | none => .error (.behind .badEscape rest)

/-- The skipping reading. -/
def checking : Reading Unit Unit where
  depth := none
  text bytes := (skipText .plain bytes).map (Prod.mk ())
  number _ := some ()
  null := ()
  bool _ := ()
  ofText _ := ()
  list _ := ()
  object _ := some ()

/-- Whether a text follows the grammar, or the first place where it does not. -/
def check (bytes : List UInt8) : Except Fault Unit :=
  checking.read bytes

end Json

end QueryConsole
