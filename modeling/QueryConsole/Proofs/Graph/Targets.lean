import Mathlib.Data.List.TakeWhile
import QueryConsole.Proofs.Graph.Listing
import QueryConsole.Proofs.Identifier

/-!
# Names in the graph of a listing

In a written graph a node goes by its id and an edge by its target, which is a database and a table
with a dot between them. A table may be called anything, dots included, or nothing at all. But no
valid name of a database has a dot, so the first dot of a target is the one that was put there, and
an element can be told from its name.

## Main definitions

- `Graph.Element.name`: the id of a node, the target of an edge
- `Graph.Element.ofName`: the element that goes by a name

## Main results

- `Graph.Element.ofName_name`: an element is told from its name
- `Graph.names_nodup`: no two elements of a graph go by the same name
- `targets_identify_tables`: what the targets tell in the graph of a listing of valid names
-/

namespace QueryConsole

namespace Graph

namespace Element

/-- The database of an element. -/
def database : Element → String
  | .node database => database
  | .edge database _ => database

/-- What an element goes by: the id of a node, the target of an edge. -/
def name : Element → String
  | .node database => database
  | .edge database table => target database table

/-- The key of the name in a written element. -/
def nameKey : Element → String
  | .node _ => "id"
  | .edge _ _ => "target"

/-- The element that goes by a name. Up to its first dot stands the database, and behind that the
table; a name without a dot is a database. -/
def ofName (name : String) : Element :=
  let database := String.ofList (name.toList.takeWhile (· != '.'))
  match name.toList.dropWhile (· != '.') with
  | [] => .node database
  | _ :: table => .edge database (String.ofList table)

theorem toJson_name (e : Element) : e.toJson.member? e.nameKey = some (.text e.name) := by
  cases e <;> rfl

theorem ne_dot {database : String} (h : '.' ∉ database.toList) :
    ∀ c ∈ database.toList, (c != '.') = true := by
  intro c hc
  rw [bne_iff_ne]
  rintro rfl
  exact h hc

/-- An element is told from its name if the name of its database has no dot. -/
theorem ofName_name {e : Element} (h : '.' ∉ e.database.toList) : ofName e.name = e := by
  cases e with
  | node database =>
    have hfront : ∀ c ∈ database.toList, (c != '.') = true := ne_dot h
    have hall : database.toList.takeWhile (· != '.') = database.toList :=
      List.takeWhile_eq_self_iff.2 hfront
    have hnone : database.toList.dropWhile (· != '.') = [] := List.dropWhile_eq_nil_iff.2 hfront
    simp only [ofName, name, hall, hnone, String.ofList_toList]
  | edge database table =>
    have hfront : ∀ c ∈ database.toList, (c != '.') = true := ne_dot h
    have htarget : (target database table).toList = database.toList ++ '.' :: table.toList := by
      simp [target]
    have htake : (target database table).toList.takeWhile (· != '.') = database.toList := by
      rw [htarget, List.takeWhile_append_of_pos hfront, List.takeWhile_cons_of_neg (by simp),
        List.append_nil]
    have hdrop : (target database table).toList.dropWhile (· != '.') = '.' :: table.toList := by
      rw [htarget, List.dropWhile_append_of_pos hfront, List.dropWhile_cons_of_neg (by simp)]
    simp only [ofName, name, htake, hdrop, String.ofList_toList]

end Element

variable {databases : List Database} {e : Element}

theorem mem_edges {g : Graph} : e ∈ g.edges ↔ e ∈ g.elements ∧ e.nameKey = "target" := by
  rw [edges, List.mem_filter]
  cases e <;> simp [Element.isEdge, Element.isNode, Element.nameKey]

theorem mem_nodes {g : Graph} : e ∈ g.nodes ↔ e ∈ g.elements ∧ e.nameKey = "id" := by
  rw [nodes, List.mem_filter]
  cases e <;> simp [Element.isNode, Element.nameKey]

/-- Every element of the graph of a listing is of a database that is listed. -/
theorem listed_of_mem (he : e ∈ (ofDatabases databases).elements) :
    ∃ d ∈ databases, d.name = e.database := by
  rw [elements_ofDatabases, List.mem_eraseDups] at he
  obtain ⟨d, hd, he⟩ := List.mem_flatMap.1 he
  obtain rfl | he := List.mem_cons.1 he
  · exact ⟨d, hd, rfl⟩
  · obtain ⟨table, _, rfl⟩ := List.mem_map.1 he
    exact ⟨d, hd, rfl⟩

/-- In the graph of a listing of valid names an element is told from its name. -/
theorem ofName_of_mem (h : ∀ d ∈ databases, Identifier.isValid d.name = true)
    (he : e ∈ (ofDatabases databases).elements) : Element.ofName e.name = e := by
  obtain ⟨d, hd, hname⟩ := listed_of_mem he
  apply Element.ofName_name
  rw [← hname]
  exact (Identifier.isValid_iff.1 (h d hd)).not_mem (by decide)

theorem eq_of_name_eq (h : ∀ d ∈ databases, Identifier.isValid d.name = true) {f : Element}
    (he : e ∈ (ofDatabases databases).elements) (hf : f ∈ (ofDatabases databases).elements)
    (hname : e.name = f.name) : e = f := by
  rw [← ofName_of_mem h he, hname, ofName_of_mem h hf]

/-- No two elements go by the same name. -/
theorem names_nodup (h : ∀ d ∈ databases, Identifier.isValid d.name = true) :
    ((ofDatabases databases).elements.map Element.name).Nodup := by
  apply List.Nodup.map_on
  · intro e he f hf hname
    exact eq_of_name_eq h he hf hname
  · rw [elements_ofDatabases]
    exact (eachOnce_eraseDups _).nodup

end Graph

/-- Where all databases of a listing have valid names, the targets in its graph identify the tables,
whatever these are called. Edges of one target are one edge, and no target is the id of a node. In
all, no name in the graph is given twice, and each element is told from its name alone. -/
theorem targets_identify_tables {databases : List Database}
    (h : ∀ d ∈ databases, Identifier.isValid d.name = true) :
    let g := Graph.ofDatabases databases
    (∀ e ∈ g.edges, ∀ f ∈ g.edges,
      e.toJson.member? "target" = f.toJson.member? "target" → e = f) ∧
    (∀ e ∈ g.edges, ∀ n ∈ g.nodes, e.toJson.member? "target" ≠ n.toJson.member? "id") ∧
    (g.elements.map Graph.Element.name).Nodup ∧
    ∀ e ∈ g.elements, e.toJson.member? e.nameKey = some (.text e.name) ∧
      Graph.Element.ofName e.name = e := by
  intro g
  refine ⟨?_, ?_, Graph.names_nodup h, fun e he => ⟨e.toJson_name, Graph.ofName_of_mem h he⟩⟩
  · intro e he f hf htarget
    obtain ⟨he, hekey⟩ := Graph.mem_edges.1 he
    obtain ⟨hf, hfkey⟩ := Graph.mem_edges.1 hf
    have hname : some (Json.text e.name) = some (Json.text f.name) := by
      rw [← e.toJson_name, ← f.toJson_name, hekey, hfkey, htarget]
    exact Graph.eq_of_name_eq h he hf (Json.text.inj (Option.some.inj hname))
  · intro e he n hn hsame
    obtain ⟨he, hekey⟩ := Graph.mem_edges.1 he
    obtain ⟨hn, hnkey⟩ := Graph.mem_nodes.1 hn
    have hname : some (Json.text e.name) = some (Json.text n.name) := by
      rw [← e.toJson_name, ← n.toJson_name, hekey, hnkey, hsame]
    obtain rfl := Graph.eq_of_name_eq h he hn (Json.text.inj (Option.some.inj hname))
    -- one element cannot go by a target and by an id
    rw [hekey] at hnkey
    exact absurd hnkey (by decide)

/-- Tables with dots in their names or with none, some of them called like what is listed
elsewhere. -/
theorem targets_identify_tables_dotted :
    (∀ d ∈ [(⟨"shop", ["hr", "", "hr.staff", "."]⟩ : Database), ⟨"hr", ["staff", "shop.hr"]⟩],
      Identifier.isValid d.name = true) ∧
    ((Graph.ofDatabases [⟨"shop", ["hr", "", "hr.staff", "."]⟩,
      ⟨"hr", ["staff", "shop.hr"]⟩]).elements.map Graph.Element.name).Nodup ∧
    (Graph.ofDatabases [⟨"shop", ["hr", "", "hr.staff", "."]⟩,
      ⟨"hr", ["staff", "shop.hr"]⟩]).elements.map Graph.Element.name =
        ["shop", "shop.hr", "shop.", "shop.hr.staff", "shop..", "hr", "hr.staff",
          "hr.shop.hr"] := by
  have hvalid : ∀ d ∈ [(⟨"shop", ["hr", "", "hr.staff", "."]⟩ : Database),
      ⟨"hr", ["staff", "shop.hr"]⟩], Identifier.isValid d.name = true := by
    decide
  exact ⟨hvalid, (targets_identify_tables hvalid).2.2.1, by decide⟩

/-- Where a database has a dot in its name, two tables may come to the same target. -/
example : Graph.Element.target "shop" "hr.staff" = Graph.Element.target "shop.hr" "staff" := by
  decide

end QueryConsole
