import QueryConsole.Identifier
import QueryConsole.Live.Slot
import QueryConsole.Session.Tab

/-!
# Sessions

What the operator has selected, the live view, and the calls that act on them. A call runs until it
needs the daemon; then it waits in a stage for the answer to that stage's query, and goes on from
there. Between two such points nothing else happens in the session.

## Main definitions

- `Panel`, `Session.Selection`, `Session`: the parts of the console and its state
- `Session.Action`: what an operator can ask for
- `Session.Stage`, `Session.Stage.query`: where a call waits, and for the answer to what
- `Session.begin`, `Session.resume`: a call up to its next wait
-/

namespace QueryConsole

/-- The regions of the console. -/
inductive Panel
  /-- what the operator's own queries gave -/
  | results
  /-- messages -/
  | notice
  /-- the rows of the watched table -/
  | live
  /-- the relationship graph -/
  | graph
  | databases
  | tables
  deriving DecidableEq, Repr

/-- The name of a panel. -/
def Panel.name : Panel → String
  | .results => "results"
  | .notice => "notice"
  | .live => "live"
  | .graph => "graph"
  | .databases => "databases"
  | .tables => "tables"

/-- All panels. -/
def Panel.all : List Panel :=
  [.results, .notice, .live, .graph, .databases, .tables]

/-- A panel and what it is to show. -/
abbrev Update := Panel × Presentation

namespace Session

/-- What the operator has chosen. -/
structure Selection where
  database : Option String := none
  table : Option String := none
  tab : Tab := .query
  deriving DecidableEq, Repr

/-- What an operator can ask for. -/
inductive Action
  /-- run a statement -/
  | query (text : String)
  /-- create a database and list all of them -/
  | create (name : String)
  /-- list the databases -/
  | refresh
  /-- change to a database and list its tables -/
  | use (name : String)
  /-- list the tables -/
  | tables
  /-- watch a table -/
  | select (name : String)
  /-- change to a tab -/
  | tab (tab : Tab)
  /-- end the live view -/
  | close
  deriving DecidableEq, Repr

/-- What a successful call returns. -/
inductive Value
  | reply (reply : Reply)
  | databases (databases : List Database)
  | tables (names : List String)
  | nothing
  deriving Repr

/-- Where a call waits for the daemon. -/
inductive Stage
  /-- for the reply to the operator's statement -/
  | answer (text : String)
  /-- for the creation of a database -/
  | creation (name : String)
  /-- for the databases -/
  | listing
  /-- for the change to a database -/
  | change (name : String)
  /-- for the tables -/
  | tables
  deriving DecidableEq, Repr

/-- The query whose answer a stage waits for. -/
def Stage.query : Stage → String
  | .answer text => text
  | .creation name => s!"CREATE DATABASE {name};"
  | .listing => "\\dc"
  | .change name => s!"USE {name};"
  | .tables => "\\dt"

/-- How many more queries a call may send after the one its stage waits for. -/
def Stage.ahead : Stage → Nat
  | .creation _ => 1
  | .change _ => 1
  | _ => 0

/-- How a call stands after running for a while. -/
inductive Progress
  | finished (result : Except Error Value)
  | waiting (stage : Stage)
  /-- the renderer has not returned, and neither does the call -/
  | broken
  deriving Repr

/-- Whether a call has broken. -/
def Progress.isBroken : Progress → Bool
  | .broken => true
  | _ => false

end Session

/-- The state of a console session. -/
structure Session where
  selection : Session.Selection := {}
  live : Live := {}
  /-- how often a watched table is fetched -/
  period : Nat := Ticker.defaultPeriod
  /-- how results and watched rows are shown -/
  renderer : Renderer := .html
  deriving Repr

namespace Session

/-- What one run of a call does: the session after it, what it shows, in order, and where it ends
up. -/
structure Turn where
  session : Session
  shown : List Update
  progress : Progress
  deriving Repr

/-- The rate at which a session is to fetch; zero leaves the default. -/
def withPeriod (s : Session) (period : Nat) : Session :=
  if period = 0 then s else { s with period := period }

/-- Wait in a stage. -/
def await (s : Session) (stage : Stage) : Turn :=
  ⟨s, [], .waiting stage⟩

/-- Finish with a value, after some updates. -/
def done (s : Session) (shown : List Update) (value : Value) : Turn :=
  ⟨s, shown, .finished (.ok value)⟩

/-- Finish with an error that a panel shows. -/
def fail (s : Session) (panel : Panel) (content : Presentation) (e : Error) : Turn :=
  ⟨s, [(panel, content)], .finished (.error e)⟩

/-- Refuse the operator's input. -/
def reject (s : Session) (reason : String) : Turn :=
  s.fail .notice (.error reason) (.invalidInput reason)

/-- Give the daemon's failure on. -/
def report (s : Session) (message : String) : Turn :=
  s.fail .notice (.error message) (.daemon message)

/-- Show the results that a renderer has made of a reply, unless it has not returned. -/
def present (s : Session) (reply : Reply) : Option Presentation → Turn
  | some content => s.done [(.results, content)] (.reply reply)
  | none => ⟨s, [], .broken⟩

/-- Go on with the name of a database or table. Outer white space is no part of it. -/
def named (s : Session) (name : String) (go : String → Turn) : Turn :=
  let name := Text.trim name
  if Identifier.isValid name then go name else s.reject s!"'{name}' is not a valid name"

/-- Watch a table and change to the live tab. -/
def watch (s : Session) (now : Nat) (table : String) : Session :=
  { s with
    selection := { s.selection with table := some table, tab := .live }
    live := s.live.subscribe now s.period table }

/-- Change to a tab. Leaving the live tab ends the live view. -/
def enter (s : Session) (tab : Tab) : Session :=
  { s with
    selection := { s.selection with tab := tab }
    live := if s.selection.tab = .live ∧ tab ≠ .live then s.live.release else s.live }

/-- End the live view. -/
def close (s : Session) : Session :=
  { s with live := s.live.release }

/-- Change to a database that the daemon has changed to. No table of it is selected. -/
def change (s : Session) (database : String) : Session :=
  { s with
    selection := { s.selection with database := some database, table := none }
    live := s.live.release }

/-- The names that a reply to a table listing holds, or the daemon's failure. Of a listing of
databases the entry of the selected one counts. -/
def tableNames (selected : Option String) : Reply → Except String (List String)
  | .tabular rows => .ok (rows.filterMap Row.label)
  | .listing databases =>
    .ok (((databases.find? fun d => some d.name = selected).map Database.tables).getD [])
  | .failure message => .error message

/-- What a listing of databases leads to: the graph is drawn anew whatever the reply is, and the
list of names only for a listing. -/
def listed (s : Session) (reply : Reply) : Turn :=
  let drawn := Renderer.drawn reply
  match reply with
  | .listing databases =>
    s.done [(.graph, drawn), (.databases, .list (databases.map Database.name))]
      (.databases databases)
  | .failure message => s.fail .graph drawn (.daemon message)
  | .tabular _ => s.fail .graph drawn (.daemon Reply.unrecognised)

/-- What a reply leads to in the stage that waits for it. -/
def answered (s : Session) (stage : Stage) (reply : Reply) : Turn :=
  match stage with
  | .answer _ => s.present reply (s.renderer.render reply)
  | .creation _ => match reply with
    | .failure message => s.report message
    | _ => s.await .listing
  | .listing => s.listed reply
  | .change name => match reply with
    | .failure message => s.report message
    | _ => (s.change name).await .tables
  | .tables => match tableNames s.selection.database reply with
    | .error message => s.report message
    | .ok names => s.done [(.tables, .list names)] (.tables names)

/-- Start a call. -/
def begin (s : Session) (now : Nat) : Action → Turn
  | .query text =>
    let text := Text.trim text
    if text.isEmpty then s.reject "query is empty" else s.await (.answer text)
  | .create name => s.named name fun name => s.await (.creation name)
  | .refresh => s.await .listing
  | .use name => s.named name fun name => s.await (.change name)
  | .tables => s.await .tables
  | .select name => s.named name fun name => (s.watch now name).done [] .nothing
  | .tab tab => (s.enter tab).done [] .nothing
  | .close => s.close.done [] .nothing

/-- Go on with a call when the outcome of its query is there. -/
def resume (s : Session) (stage : Stage) : Outcome → Turn
  | .ok reply => s.answered stage reply
  | .error e => s.fail .notice e.notice e

end Session

end QueryConsole
