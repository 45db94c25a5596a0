import QueryConsole.Http.MediaType.Application
import QueryConsole.Http.MediaType.Content
import QueryConsole.Http.MediaType.Vendor

/-!
# Media types

The type of a file follows from the extension of its name, whatever the case of its letters.

## Main definitions

- `Http.extension`: the extension of a file name
- `Http.foldCase`: a text in which the case of letters makes no difference
- `Http.mediaType`: the type of a file by the name of it
-/

namespace QueryConsole

namespace Http

/-- The types of the extensions that are known. -/
def mediaTypes : List (String × String) :=
  contentTypes ++ applicationTypes ++ vendorTypes

/-- The type of a file about which nothing is known. -/
def unknownType : String := "application/octet-stream"

/-- The extension of a file name: what follows its last dot, which must not be its first
character. -/
def extension (name : List Char) : Option (List Char) :=
  match name.reverse.span (· != '.') with
  | (last, '.' :: _ :: _) => some last.reverse
  | _ => none

/-- What a character is when case makes no difference, as far as letters of ASCII come of it: its
small letter, or the letters that it joins in one sign. -/
def foldChar (c : Char) : List Char :=
  match c with
  | 'ſ' => ['s']
  | '\u212A' => ['k']
  | 'ß' => ['s', 's']
  | 'ẞ' => ['s', 's']
  | 'ﬀ' => ['f', 'f']
  | 'ﬁ' => ['f', 'i']
  | 'ﬂ' => ['f', 'l']
  | 'ﬃ' => ['f', 'f', 'i']
  | 'ﬄ' => ['f', 'f', 'l']
  | 'ﬅ' => ['s', 't']
  | 'ﬆ' => ['s', 't']
  | c => [c.toLower]

/-- A text in which the case of letters makes no difference. -/
def foldCase (cs : List Char) : String :=
  String.ofList (cs.flatMap foldChar)

/-- The type of an extension. -/
def typeOf? (extension : List Char) : Option String :=
  let name := foldCase extension
  (mediaTypes.find? fun known => (known.2.splitOn " ").contains name).map Prod.fst

/-- The type of a file by the extension of its name. -/
def mediaType (name : String) : String :=
  ((extension name.toList).bind typeOf?).getD unknownType

end Http

end QueryConsole
