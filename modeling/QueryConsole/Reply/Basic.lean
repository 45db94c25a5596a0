import QueryConsole.Reply.Decode

/-!
# Replies

A daemon response sorted into the three kinds that everything else works with.

## Main definitions

- `Reply`: a table, a listing of databases, or a failure
- `Reply.ofResponse`: the kind of a decoded response
- `Reply.discriminate`: the kind of any JSON value
- `Reply.result`: a reply that is no failure
-/

namespace QueryConsole

/-- A daemon response after discrimination. -/
inductive Reply
  /-- rows of a result -/
  | tabular (rows : List Row)
  /-- databases and their tables -/
  | listing (databases : List Database)
  /-- the daemon's word for what went wrong -/
  | failure (message : String)
  deriving Repr

namespace Reply

/-- Shown when a response has none of the known shapes. -/
def unrecognised : String := "unrecognised response from daemon"

/-- Shown when the daemon reports a failure and says nothing about it. -/
def unexplained : String := "query failed"

/-- The kind of a decoded response. An error outranks everything, a listing outranks rows, and a
bare success is an empty table. -/
def ofResponse (r : Response) : Reply :=
  if r.status = some "error" ∨ r.error.isSome then
    .failure ((r.error <|> r.message).getD unexplained)
  else match r.databases, r.results <|> r.result with
    | some databases, _ => .listing databases
    | none, some rows => .tabular rows
    | none, none =>
      if r.status = some "success" then .tabular []
      else .failure (r.message.getD unrecognised)

/-- The text that a value of another shape carries about itself. -/
def complaint (v : Json) : Option String :=
  ((v.member? "message").bind Json.text?) <|> ((v.member? "error").bind Json.text?)

/-- The kind of any JSON value; what does not decode is a failure. -/
def discriminate (v : Json) : Reply :=
  match Response.ofJson v with
  | .ok r => ofResponse r
  | .error _ => .failure ((complaint v).getD unrecognised)

/-- Whether a reply is a failure. -/
def isFailure : Reply → Bool
  | .failure _ => true
  | _ => false

/-- The reply, unless it is a failure. -/
def result : Reply → Except Error Reply
  | .failure message => .error (.daemon message)
  | r => .ok r

/-- The written form of a reply: its kind and its data. -/
def toJson : Reply → Json
  | .tabular rows => .object [("kind", .text "tabular"), ("data", .list (rows.map Row.toJson))]
  | .listing databases =>
    .object [("kind", .text "listing"), ("data", .list (databases.map Database.toJson))]
  | .failure message => .object [("kind", .text "failure"), ("data", .text message)]

end Reply

end QueryConsole
