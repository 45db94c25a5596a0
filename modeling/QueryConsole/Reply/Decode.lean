import QueryConsole.Error
import QueryConsole.Reply.Response

/-!
# Decoding responses

A response is an object with any of its six fields, or a list of their values in the order of
declaration. Null stands for an absent field. A database is an object with a name and perhaps
tables, or a list of the two; there null stands for nothing. Unknown members are passed over. The
first mismatch in the order of the document is the one reported.

## Main definitions

- `Mismatch`: how a value fails to have the expected shape
- `Response.ofJson`, `Database.ofJson`: the decoders
-/

namespace QueryConsole

/-- What the decoder looks for. -/
inductive Shape
  | text
  | sequence
  | response
  | database
  deriving DecidableEq, Repr

/-- The name of a shape. -/
def Shape.phrase : Shape → String
  | .text => "a string"
  | .sequence => "a sequence"
  | .response => "struct QueryResponse"
  | .database => "struct DatabaseDescriptor"

/-- How a value fails to have the expected shape. -/
inductive Mismatch
  /-- a value of another kind stands where the shape is wanted -/
  | kind (found : Json) (wanted : Shape)
  /-- a database without a name -/
  | unnamed
  /-- a database given as a list of no entries -/
  | tooShort
  /-- a list of more entries than there are fields -/
  | tooLong (count : Nat)
  deriving Repr

/-- A value as it is called in messages. -/
def Json.phrase : Json → String
  | .null => "null"
  | .bool true => "boolean `true`"
  | .bool false => "boolean `false`"
  | .integer n => s!"integer `{String.ofList (Json.renderInteger n)}`"
  | .double x => s!"floating point `{x.render .json}`"
  | .text s => s!"string {Text.quote s}"
  | .list _ => "sequence"
  | .object _ => "map"

/-- The wording of a mismatch. -/
def Mismatch.message : Mismatch → String
  | .kind found wanted => s!"invalid type: {found.phrase}, expected {wanted.phrase}"
  | .unnamed => "missing field `name`"
  | .tooShort => "invalid length 0, expected struct DatabaseDescriptor with 2 elements"
  | .tooLong count => s!"invalid length {count}, expected fewer elements in array"

namespace Json

/-- A text. -/
def asText : Json → Except Mismatch String
  | .text s => .ok s
  | v => .error (.kind v .text)

/-- A list of values, each decoded in turn. -/
def asList {α : Type} (entry : Json → Except Mismatch α) : Json → Except Mismatch (List α)
  | .list items => items.mapM entry
  | v => .error (.kind v .sequence)

/-- Nothing for null, else the decoded value. -/
def asOptional {α : Type} (decode : Json → Except Mismatch α) : Json → Except Mismatch (Option α)
  | .null => .ok none
  | v => (decode v).map some

end Json

namespace Database

/-- A database of which fields may still be missing. -/
structure Draft where
  name : Option String := none
  tables : Option (List String) := none

/-- Decodes one member into a draft. -/
def Draft.put (d : Draft) (key : String) (v : Json) : Except Mismatch Draft :=
  if key = "name" then do return { d with name := some (← v.asText) }
  else if key = "tables" then do return { d with tables := some (← v.asList Json.asText) }
  else .ok d

/-- Decodes a database. -/
def ofJson : Json → Except Mismatch Database
  | .object members => do
    let draft ← members.foldlM (fun (d : Draft) m => d.put m.1 m.2) {}
    match draft.name with
    | some name => return ⟨name, draft.tables.getD []⟩
    | none => .error .unnamed
  | .list [] => .error .tooShort
  | .list [name] => do return ⟨← name.asText, []⟩
  | .list (name :: tables :: more) => do
    let name ← name.asText
    let tables ← tables.asList Json.asText
    if more.isEmpty then return ⟨name, tables⟩ else .error (.tooLong (more.length + 2))
  | v => .error (.kind v .database)

end Database

namespace Response

/-- The fields in the order of declaration. -/
def fieldNames : List String :=
  ["status", "result", "results", "databases", "message", "error"]

/-- Decodes one member into a response. -/
def put (r : Response) (key : String) (v : Json) : Except Mismatch Response :=
  let rows := Json.asOptional (Json.asList fun row => .ok (Row.ofJson row))
  let text := Json.asOptional Json.asText
  if key = "status" then do return { r with status := ← text v }
  else if key = "result" then do return { r with result := ← rows v }
  else if key = "results" then do return { r with results := ← rows v }
  else if key = "databases" then do
    return { r with databases := ← Json.asOptional (Json.asList Database.ofJson) v }
  else if key = "message" then do return { r with message := ← text v }
  else if key = "error" then do return { r with error := ← text v }
  else .ok r

/-- Decodes members in their order. -/
def ofMembers (members : List (String × Json)) : Except Mismatch Response :=
  members.foldlM (fun (r : Response) m => r.put m.1 m.2) {}

/-- Decodes a response. -/
def ofJson : Json → Except Mismatch Response
  | .object members => ofMembers members
  | .list items => do
    let r ← ofMembers (fieldNames.zip items)
    if items.length ≤ fieldNames.length then return r else .error (.tooLong items.length)
  | v => .error (.kind v .response)

end Response

end QueryConsole
