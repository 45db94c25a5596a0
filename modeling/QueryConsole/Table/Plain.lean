import QueryConsole.Table.Basic
import QueryConsole.Text.Blank

/-!
# Tables in plain text

A grid is set in columns, each as wide as its widest cell, counted in characters. A rule of dashes
stands under the header. White space at the end of a line is taken off. Formatting fails for a cell
that is to be wider than a number of 16 bits tells, and then there is no text at all.

## Main definitions

- `Table.widths`: the widths of the columns
- `Table.padded`: a cell at the width of its column
- `Table.gridLines`: the lines of a grid
- `Table.plain`: a table as plain text
-/

namespace QueryConsole

namespace Table

/-- The cell of a row in a column; a missing one is empty. -/
def cellAt (row : List String) (column : Nat) : String :=
  row.getD column ""

/-- Columns made as wide as the cells of a row need. A cell behind the last column does not count,
and a column without a cell stays as it is. -/
def widen : List Nat → List String → List Nat
  | width :: widths, cell :: row => max width cell.length :: widen widths row
  | widths, _ => widths

/-- The widths of the columns: as the header needs, and then each row. -/
def widths (columns : List String) (rows : List (List String)) : List Nat :=
  rows.foldl widen (columns.map String.length)

/-- The greatest width that formatting takes. -/
def greatestWidth : Nat := 65535

/-- A cell with spaces after it up to a width. -/
def filled (cell : String) (width : Nat) : List Char :=
  cell.toList ++ List.replicate (width - cell.length) ' '

/-- A cell at the width of its column, unless that is too great for formatting. -/
def padded (cell : String) (width : Nat) : Option (List Char) :=
  if width ≤ greatestWidth then some (filled cell width) else none

/-- Lists of characters with a separator between them. -/
def joined (separator : List Char) : List (List Char) → List Char
  | [] => []
  | [field] => field
  | field :: rest => field ++ separator ++ joined separator rest

/-- A line of cells at full width. -/
def fullLine (widths : List Nat) (row : List String) : Option (List Char) := do
  let fields ← widths.zipIdx.mapM fun (width, column) => padded (cellAt row column) width
  return joined [' ', '|', ' '] fields

/-- A line of cells as it is shown. -/
def line (widths : List Nat) (row : List String) : Option (List Char) := do
  return Text.trimEndChars (← fullLine widths row)

/-- The rule under the header. -/
def rule (widths : List Nat) : List Char :=
  joined ['-', '+', '-'] (widths.map (List.replicate · '-'))

/-- The lines of a grid: the header, the rule, and a line for each row. -/
def gridLines (columns : List String) (rows : List (List String)) : Option (List (List Char)) := do
  let widths := widths columns rows
  let header ← line widths columns
  let body ← rows.mapM (line widths)
  return header :: rule widths :: body

/-- A table as plain text. -/
def plain : Table → Option String
  | .empty => some nothing
  | .grid columns rows => do
    return String.ofList (joined ['\n'] (← gridLines columns rows))
  | .blocks texts => some ("\n\n".intercalate texts)

end Table

end QueryConsole
