import QueryConsole.Double.Notation
import QueryConsole.Json.Basic
import QueryConsole.Text.Quoted

/-!
# Written JSON

The compact form: no blanks, the members of an object in their order. In a text only the quote,
the backslash and the controls are escaped.

## Main definitions

- `Json.quote`: a written text
- `Json.render`: a written value
- `Json.display`: a value as a table cell
-/

namespace QueryConsole

namespace Json

/-- One character of a written text. -/
def quoteChar (c : Char) : List Char :=
  if c = '"' then ['\\', '"']
  else if c = '\\' then ['\\', '\\']
  else if c = '\n' then ['\\', 'n']
  else if c = '\r' then ['\\', 'r']
  else if c = '\t' then ['\\', 't']
  else if c = '\x08' then ['\\', 'b']
  else if c = '\x0c' then ['\\', 'f']
  else if c.toNat < 0x10 then ['\\', 'u', '0', '0', '0'] ++ Text.hex c.toNat
  else if c.toNat < 0x20 then ['\\', 'u', '0', '0'] ++ Text.hex c.toNat
  else [c]

/-- A written text. -/
def quote (s : String) : List Char :=
  '"' :: s.toList.flatMap quoteChar ++ ['"']

/-- A written whole number. -/
def renderInteger (n : Int) : List Char :=
  (if n < 0 then ['-'] else []) ++ decimalDigits n.natAbs

/-- Written entries with commas between them. -/
def separated : List (List Char) → List Char
  | [] => []
  | [entry] => entry
  | entry :: rest => entry ++ ',' :: separated rest

mutual

/-- A written value. -/
def renderChars : Json → List Char
  | .null => ['n', 'u', 'l', 'l']
  | .bool true => ['t', 'r', 'u', 'e']
  | .bool false => ['f', 'a', 'l', 's', 'e']
  | .integer n => renderInteger n
  | .double x => (x.render .json).toList
  | .text s => quote s
  | .list items => '[' :: separated (renderItems items) ++ [']']
  | .object members => '\x7b' :: separated (renderMembers members) ++ ['\x7d']

/-- Each of several written values. -/
def renderItems : List Json → List (List Char)
  | [] => []
  | v :: rest => renderChars v :: renderItems rest

/-- Each of several written members. -/
def renderMembers : List (String × Json) → List (List Char)
  | [] => []
  | (key, v) :: rest => (quote key ++ ':' :: renderChars v) :: renderMembers rest

end

/-- A written value. -/
def render (v : Json) : String :=
  String.ofList (renderChars v)

/-- What is shown for a value in a table: texts as they are, everything else as written. -/
def display : Json → String
  | .text s => s
  | v => v.render

end Json

end QueryConsole
