import QueryConsole.Text.Blank

/-!
# Names of databases and tables

## Main definitions

- `Identifier.isValid`: letters, digits and underscores, not starting with a digit
-/

namespace QueryConsole

namespace Identifier

/-- The characters a name may start with. -/
def isStart (c : Char) : Bool :=
  ('a' ≤ c && c ≤ 'z') || ('A' ≤ c && c ≤ 'Z') || c == '_'

/-- The characters a name may go on with. -/
def isNext (c : Char) : Bool :=
  isStart c || ('0' ≤ c && c ≤ '9')

/-- Letters, digits and underscores, not starting with a digit. -/
def isValidChars : List Char → Bool
  | [] => false
  | c :: rest => isStart c && rest.all isNext

/-- Whether a text may stand for a database or table inside a statement. -/
def isValid (name : String) : Bool :=
  isValidChars name.toList

end Identifier

end QueryConsole
