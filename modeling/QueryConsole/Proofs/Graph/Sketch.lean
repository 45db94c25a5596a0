import Mathlib.Data.List.Basic
import QueryConsole.Graph

/-!
# Drawing a listing

A listing is drawn entry by entry, with what is drawn already kept beside the elements. At every
moment the elements are those that were asked for so far, each where it was asked for first.

## Main definitions

- `Graph.ofDatabase`: the elements that an entry of a listing asks for
- `Graph.Sourced`: every edge comes after the node of its database
- `Graph.Sketch.Shows`: what a sketch shows of the elements that were asked for

## Main results

- `Graph.elements_ofDatabases`: the elements of the graph of a listing
- `Graph.sourced_ofDatabases`: every edge comes after the node of its database
-/

namespace QueryConsole

namespace Graph

/-- The elements that an entry of a listing asks for. -/
def ofDatabase (d : Database) : List Element :=
  .node d.name :: d.tables.map (.edge d.name)

/-- Every edge comes after the node of its database. -/
def Sourced (elements : List Element) : Prop :=
  ∀ (before : List Element) (database table : String) (after : List Element),
    elements = before ++ .edge database table :: after → .node database ∈ before

variable {g : Sketch} {asked elements : List Element}

/-! ## One more element -/

theorem eraseDups_concat_of_mem {α : Type} [BEq α] [LawfulBEq α] {l : List α} {a : α} (h : a ∈ l) :
    (l ++ [a]).eraseDups = l.eraseDups := by
  have hnone : [a].removeAll l = [] := by simp [List.removeAll, h]
  rw [List.eraseDups_append, hnone, List.eraseDups_nil, List.append_nil]

theorem eraseDups_concat_of_not_mem {α : Type} [BEq α] [LawfulBEq α] {l : List α} {a : α}
    (h : a ∉ l) : (l ++ [a]).eraseDups = l.eraseDups ++ [a] := by
  have hone : [a].removeAll l = [a] := by simp [List.removeAll, h]
  rw [List.eraseDups_append, hone]
  rfl

/-- An element may be drawn last if it is a node or an edge of a database that is there. -/
theorem Sourced.concat (h : Sourced elements) {e : Element}
    (he : ∀ database table, e = .edge database table → .node database ∈ elements) :
    Sourced (elements ++ [e]) := by
  intro before database table after heq
  obtain rfl | ⟨front, last, rfl⟩ := List.eq_nil_or_concat' after
  · obtain ⟨rfl, hlast⟩ := List.append_inj' heq rfl
    exact he database table (List.singleton_inj.1 hlast)
  · have hsplit : elements ++ [e] = (before ++ .edge database table :: front) ++ [last] := by
      rw [heq, List.append_assoc, List.cons_append]
    exact h before database table front (List.append_inj' hsplit rfl).1

namespace Sketch

/-- What a sketch shows of the elements that were asked for: each of them once, and what is kept
beside them is what they are. -/
structure Shows (g : Sketch) (asked : List Element) : Prop where
  elements : g.elements = asked.eraseDups
  databases : ∀ database, database ∈ g.databases ↔ .node database ∈ asked
  tables : ∀ database table, (database, table) ∈ g.tables ↔ .edge database table ∈ asked
  sourced : Sourced g.elements

theorem Shows.begin : Shows {} [] where
  elements := rfl
  databases := by simp
  tables := by simp
  sourced := by
    intro before database table after h
    simp at h

theorem Shows.mem (h : g.Shows asked) (e : Element) : e ∈ g.elements ↔ e ∈ asked := by
  rw [h.elements, List.mem_eraseDups]

theorem Shows.drawNode (h : g.Shows asked) (database : String) :
    (g.drawNode database).Shows (asked ++ [.node database]) := by
  by_cases hseen : database ∈ g.databases
  · have hasked : .node database ∈ asked := (h.databases database).1 hseen
    rw [Sketch.drawNode, if_pos hseen]
    refine ⟨?_, ?_, ?_, h.sourced⟩
    · rw [h.elements, eraseDups_concat_of_mem hasked]
    · intro other
      rw [h.databases, List.mem_append, List.mem_singleton, Element.node.injEq]
      refine ⟨Or.inl, fun hother => hother.elim id ?_⟩
      rintro rfl
      exact hasked
    · intro other table
      simp [h.tables]
  · have hasked : .node database ∉ asked := fun hmem => hseen ((h.databases database).2 hmem)
    rw [Sketch.drawNode, if_neg hseen]
    refine ⟨?_, ?_, ?_, h.sourced.concat (by simp)⟩
    · simp only [h.elements, eraseDups_concat_of_not_mem hasked]
    · intro other
      simp [h.databases, or_comm]
    · intro other table
      simp [h.tables]

theorem Shows.drawEdge (h : g.Shows asked) {database : String} (hnode : .node database ∈ asked)
    (table : String) : (g.drawEdge database table).Shows (asked ++ [.edge database table]) := by
  by_cases hseen : (database, table) ∈ g.tables
  · have hasked : .edge database table ∈ asked := (h.tables database table).1 hseen
    rw [Sketch.drawEdge, if_pos hseen]
    refine ⟨?_, ?_, ?_, h.sourced⟩
    · rw [h.elements, eraseDups_concat_of_mem hasked]
    · intro other
      simp [h.databases]
    · intro other name
      rw [h.tables, List.mem_append, List.mem_singleton, Element.edge.injEq]
      refine ⟨Or.inl, fun hother => hother.elim id ?_⟩
      rintro ⟨rfl, rfl⟩
      exact hasked
  · have hasked : .edge database table ∉ asked :=
      fun hmem => hseen ((h.tables database table).2 hmem)
    have hsource : .node database ∈ g.elements := (h.mem _).2 hnode
    rw [Sketch.drawEdge, if_neg hseen]
    refine ⟨?_, ?_, ?_, h.sourced.concat ?_⟩
    · simp only [h.elements, eraseDups_concat_of_not_mem hasked]
    · intro other
      simp [h.databases]
    · intro other name
      simp [h.tables, or_comm]
    · rintro _ _ ⟨⟩
      exact hsource

/-- The tables of an entry are drawn one after the other. -/
theorem Shows.drawEdges (tables : List String) {database : String} (h : g.Shows asked)
    (hnode : .node database ∈ asked) :
    (tables.foldl (·.drawEdge database ·) g).Shows (asked ++ tables.map (.edge database)) := by
  induction tables generalizing g asked with
  | nil => simpa using h
  | cons table tables ih =>
    have hrest := ih (h.drawEdge hnode table) (List.mem_append_left _ hnode)
    rwa [List.append_assoc] at hrest

theorem Shows.drawEntry (h : g.Shows asked) (d : Database) :
    (g.drawEntry d).Shows (asked ++ ofDatabase d) := by
  have hnode : Element.node d.name ∈ asked ++ [.node d.name] := by simp
  have hentry := (h.drawNode d.name).drawEdges d.tables hnode
  rwa [List.append_assoc] at hentry

theorem Shows.drawAll (databases : List Database) (h : g.Shows asked) :
    (databases.foldl Sketch.drawEntry g).Shows (asked ++ databases.flatMap ofDatabase) := by
  induction databases generalizing g asked with
  | nil => simpa using h
  | cons d databases ih =>
    have hrest := ih (h.drawEntry d)
    rwa [List.append_assoc] at hrest

end Sketch

/-! ## The whole listing -/

theorem shows_ofDatabases (databases : List Database) :
    (databases.foldl Sketch.drawEntry {}).Shows (databases.flatMap ofDatabase) :=
  Sketch.Shows.begin.drawAll databases

/-- The elements of the graph of a listing are those it asks for, each where it is asked for
first. -/
theorem elements_ofDatabases (databases : List Database) :
    (ofDatabases databases).elements = (databases.flatMap ofDatabase).eraseDups :=
  (shows_ofDatabases databases).elements

theorem sourced_ofDatabases (databases : List Database) :
    Sourced (ofDatabases databases).elements :=
  (shows_ofDatabases databases).sourced

end Graph

end QueryConsole
