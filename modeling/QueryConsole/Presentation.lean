import QueryConsole.Graph
import QueryConsole.Table.Html
import QueryConsole.Table.Plain

/-!
# Presentations

What a panel shows. A renderer turns a reply into one presentation; a failure is always shown as an
error with the daemon's words, and never as a table or a graph too. A renderer that cannot format a
reply does not return: it breaks whoever has called it.

## Main definitions

- `Presentation`: the content of a panel
- `Renderer`, `Renderer.render`: the three ways to show a reply
-/

namespace QueryConsole

/-- The content of a panel. -/
inductive Presentation
  | html (content : String)
  | text (content : String)
  | graph (content : Graph)
  | list (items : List String)
  | error (message : String)
  deriving DecidableEq, Repr

/-- Whether a presentation is an error. -/
def Presentation.isError : Presentation → Bool
  | .error _ => true
  | _ => false

/-- A way to show replies. -/
inductive Renderer
  /-- a table in HTML -/
  | html
  /-- a table in plain text -/
  | text
  /-- the relationship graph -/
  | graph
  deriving DecidableEq, Repr

namespace Renderer

/-- A reply as a table, written out by `write`. -/
def table (write : Table → Option Presentation) (r : Reply) : Option Presentation :=
  match Table.ofReply r with
  | .error message => some (.error message)
  | .ok t => write t

/-- A reply as a graph; only a listing has one. -/
def drawn : Reply → Presentation
  | .listing databases => .graph (Graph.ofDatabases databases)
  | .failure message => .error message
  | .tabular _ => .error Reply.unrecognised

/-- What a renderer shows for a reply, if it returns. -/
def render : Renderer → Reply → Option Presentation
  | .html => table fun t => some (.html t.html)
  | .text => table fun t => t.plain.map .text
  | .graph => fun reply => some (drawn reply)

end Renderer

end QueryConsole
