import QueryConsole.Reply.Basic

/-!
# The relationship graph

A node for each database of a listing and an edge for each table it contains. Nothing is kept from
an earlier listing, and what a listing repeats is shown once, where it comes first.

## Main definitions

- `Graph.Element`: a node or an edge
- `Graph.Sketch`: a graph that is being drawn
- `Graph.ofDatabases`: the graph of a listing
- `Graph.toJson`, `Graph.toWidgetJson`: the written forms
-/

namespace QueryConsole

namespace Graph

/-- A part of the graph. -/
inductive Element
  /-- a database -/
  | node (database : String)
  /-- a table inside a database -/
  | edge (database table : String)
  deriving DecidableEq, Repr

namespace Element

/-- Whether an element is a node. -/
def isNode : Element → Bool
  | .node _ => true
  | .edge _ _ => false

/-- Whether an element is an edge. -/
def isEdge (e : Element) : Bool := !e.isNode

/-- The name that an edge points to. -/
def target (database table : String) : String :=
  database ++ "." ++ table

/-- The label of every edge. -/
def contains : String := "contains"

/-- A written element. -/
def toJson : Element → Json
  | .node database => .object [("id", .text database), ("label", .text database)]
  | .edge database table =>
    .object [("source", .text database), ("target", .text (target database table)),
      ("label", .text contains)]

end Element

end Graph

/-- The elements of a relationship graph, in the order they are drawn. -/
structure Graph where
  elements : List Graph.Element
  deriving DecidableEq, Repr

namespace Graph

/-- A graph that is being drawn, with the databases and the tables inside databases that are in it
already. -/
structure Sketch where
  elements : List Element := []
  databases : List String := []
  tables : List (String × String) := []

namespace Sketch

/-- Draw a database, unless it is there. -/
def drawNode (g : Sketch) (database : String) : Sketch :=
  if database ∈ g.databases then g
  else
    { g with
      elements := g.elements ++ [.node database]
      databases := database :: g.databases }

/-- Draw a table inside a database, unless it is there. -/
def drawEdge (g : Sketch) (database table : String) : Sketch :=
  if (database, table) ∈ g.tables then g
  else
    { g with
      elements := g.elements ++ [.edge database table]
      tables := (database, table) :: g.tables }

/-- Draw an entry of a listing: the database, then its tables. -/
def drawEntry (g : Sketch) (d : Database) : Sketch :=
  d.tables.foldl (·.drawEdge d.name ·) (g.drawNode d.name)

end Sketch

/-- The graph of a listing. -/
def ofDatabases (databases : List Database) : Graph :=
  ⟨(databases.foldl Sketch.drawEntry {}).elements⟩

/-- The nodes, in order. -/
def nodes (g : Graph) : List Element :=
  g.elements.filter Element.isNode

/-- The edges, in order. -/
def edges (g : Graph) : List Element :=
  g.elements.filter Element.isEdge

/-- Whether there is nothing to draw. -/
def isEmpty (g : Graph) : Bool :=
  g.elements.isEmpty

/-- The written graph. -/
def toJson (g : Graph) : Json :=
  .list (g.elements.map Element.toJson)

/-- The form that graph widgets consume: each element under the key `data`. -/
def toWidgetJson (g : Graph) : Json :=
  .list (g.elements.map fun e => .object [("data", e.toJson)])

end Graph

end QueryConsole
