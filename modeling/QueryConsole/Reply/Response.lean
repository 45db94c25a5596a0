import QueryConsole.Json.Encode

/-!
# The daemon's response as it comes over the wire

Every response has the same six optional fields, whatever kind of statement it answers.

## Main definitions

- `Row`: an entry of a tabular result
- `Database`: a database and its tables
- `Response`: the six fields
- `Response.toJson`: the written form, without the absent fields
-/

namespace QueryConsole

/-- An entry of a tabular result. -/
inductive Row
  /-- columns and their values, in the daemon's order -/
  | record (cells : List (String × Json))
  /-- text that is already formatted -/
  | text (s : String)
  /-- any other value -/
  | scalar (v : Json)
  deriving Repr

/-- A database and the tables it contains. -/
structure Database where
  name : String
  tables : List String
  deriving DecidableEq, Repr

/-- The fields of a daemon response. -/
structure Response where
  status : Option String := none
  result : Option (List Row) := none
  results : Option (List Row) := none
  databases : Option (List Database) := none
  message : Option String := none
  error : Option String := none
  deriving Repr

namespace Row

/-- The row that a value is. -/
def ofJson : Json → Row
  | .object cells => .record cells
  | .text s => .text s
  | v => .scalar v

/-- The value that a row is. -/
def toJson : Row → Json
  | .record cells => .object cells
  | .text s => .text s
  | .scalar v => v

/-- The columns of a record, in order; other rows have none. -/
def columns : Row → List String
  | .record cells => cells.map Prod.fst
  | _ => []

/-- The value of a record in a column. -/
def cell (r : Row) (column : String) : Option Json :=
  match r with
  | .record cells => Json.lookup cells column
  | _ => none

/-- A row reduced to one text: the text itself, the value, or a record's first value. Null and the
empty record have none. -/
def label : Row → Option String
  | .record [] => none
  | .record ((_, v) :: _) => some v.display
  | .text s => some s
  | .scalar .null => none
  | .scalar v => some v.display

end Row

/-- A written database. -/
def Database.toJson (d : Database) : Json :=
  .object [("name", .text d.name), ("tables", .list (d.tables.map .text))]

namespace Response

/-- A field, if it is present. -/
def field (name : String) (value : Option Json) : List (String × Json) :=
  value.toList.map (Prod.mk name)

/-- The written form: the fields that are present, in a fixed order. -/
def toJson (r : Response) : Json :=
  let rows (rs : List Row) : Json := .list (rs.map Row.toJson)
  .object (field "status" (r.status.map .text) ++
    field "result" (r.result.map rows) ++
    field "results" (r.results.map rows) ++
    field "databases" (r.databases.map fun ds => .list (ds.map Database.toJson)) ++
    field "message" (r.message.map .text) ++
    field "error" (r.error.map .text))

end Response

end QueryConsole
