import QueryConsole.Reply.Basic

/-!
# Tables

A reply reduced to the texts of a table. The first row decides: if it is a record with columns, its
columns head a grid and every record is read through them; otherwise each row that has a label is a
block of its own.

## Main definitions

- `Table`: the three forms of a table
- `Table.ofReply`: the table that a reply means
-/

namespace QueryConsole

/-- A reply reduced to texts. -/
inductive Table
  /-- nothing to show -/
  | empty
  /-- a header and one line of cells for each row -/
  | grid (columns : List String) (rows : List (List String))
  /-- texts shown one after another -/
  | blocks (texts : List String)
  deriving DecidableEq, Repr

namespace Table

/-- The cells of a row under the columns of a grid. A record has one for each column, empty where
it lacks the column; any other row is a single cell. -/
def cells (columns : List String) : Row → List String
  | .record members =>
    columns.map fun column => ((Json.lookup members column).map Json.display).getD ""
  | row => [row.label.getD ""]

/-- The labels of rows as blocks. -/
def ofLabels : List String → Table
  | [] => .empty
  | labels => .blocks labels

/-- The table of tabular rows. -/
def ofRows : List Row → Table
  | [] => .empty
  | first :: rest =>
    match first.columns with
    | [] => ofLabels ((first :: rest).filterMap Row.label)
    | columns => .grid columns ((first :: rest).map (cells columns))

/-- The table of a listing. -/
def ofDatabases : List Database → Table
  | [] => .empty
  | databases =>
    .grid ["name", "tables"] (databases.map fun d => [d.name, ", ".intercalate d.tables])

/-- The table that a reply means, or the message of a failure. -/
def ofReply : Reply → Except String Table
  | .failure message => .error message
  | .tabular rows => .ok (ofRows rows)
  | .listing databases => .ok (ofDatabases databases)

/-- Shown in place of a table without content. -/
def nothing : String := "No results"

end Table

end QueryConsole
