import QueryConsole.Session.Basic

/-!
# Updates on a terminal

## Main definitions

- `Stream`: where text is written
- `Update.written`: what is written for an update
-/

namespace QueryConsole

/-- Where a program writes text. -/
inductive Stream
  | stdout
  | stderr
  deriving DecidableEq, Repr

/-- A text and where it is written. -/
abbrev Written := Stream × String

/-- A line of text. -/
def textLine (s : String) : String := s ++ "\n"

/-- A node or an edge of the graph on a line. -/
def Graph.Element.line : Graph.Element → String
  | .node database => s!"  ({database})"
  | .edge database table =>
    s!"  {database} -[{Graph.Element.contains}]-> {Graph.Element.target database table}"

/-- What is written for an update of a panel: errors to the error stream, and everything else under
the name of the panel. -/
def Update.written (u : Update) : Written :=
  let (panel, content) := u
  let head := s!"[{panel.name}]"
  match content with
  | .error message => (.stderr, textLine s!"{head} error: {message}")
  | .text s => (.stdout, textLine s!"{head}\n{s}")
  | .html s => (.stdout, textLine s!"{head}\n{s}")
  | .list [] => (.stdout, textLine s!"{head} (none)")
  | .list items => (.stdout, String.join ((head :: items.map ("  " ++ ·)).map textLine))
  | .graph g => (.stdout, String.join ((head :: g.elements.map Graph.Element.line).map textLine))

end QueryConsole
