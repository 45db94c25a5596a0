import QueryConsole.Table.Basic

/-!
# Tables in HTML

Every text from the daemon is escaped, so that none of it can open, close or alter a tag or an
entity.

## Main definitions

- `Html.escape`: text as it stands between tags
- `Table.html`: a table as a piece of HTML
-/

namespace QueryConsole

namespace Html

/-- One character of a text between tags. -/
def escapeChar (c : Char) : List Char :=
  if c = '&' then "&amp;".toList
  else if c = '<' then "&lt;".toList
  else if c = '>' then "&gt;".toList
  else if c = '"' then "&quot;".toList
  else if c = '\'' then "&#x27;".toList
  else if c = '/' then "&#x2f;".toList
  else [c]

/-- A text as it stands between tags. -/
def escape (cs : List Char) : List Char :=
  cs.flatMap escapeChar

/-- An escaped text between an opening and a closing tag. -/
def enclose (opening : String) (text : String) (closing : String) : List Char :=
  opening.toList ++ escape text.toList ++ closing.toList

/-- A line of a table, its cells in the given element. -/
def tableRow (opening closing : String) (cells : List String) : List Char :=
  "<tr>".toList ++ cells.flatMap (enclose opening · closing) ++ "</tr>".toList

end Html

namespace Table

/-- The characters of a table as a piece of HTML. -/
def htmlChars : Table → List Char
  | .empty => Html.enclose "<div class=\"no-results\">" nothing "</div>"
  | .grid columns rows =>
    "<table class=\"result-table\">".toList ++ Html.tableRow "<th>" "</th>" columns ++
      rows.flatMap (Html.tableRow "<td>" "</td>") ++ "</table>".toList
  | .blocks texts =>
    texts.flatMap (Html.enclose "<div class=\"result-table-wrapper\"><pre>" · "</pre></div>")

/-- A table as a piece of HTML. -/
def html (t : Table) : String :=
  String.ofList t.htmlChars

end Table

end QueryConsole
