import Mathlib.Data.List.Induction
import Mathlib.Data.List.Nodup
import QueryConsole.Proofs.Graph.Nodes

/-!
# The graph of a listing, without repeats

A listing may name a database several times, in several places, and a table several times under a
database. Its graph has one node for each name and one edge for each table under a name, in the order
in which the listing comes to them, and saying again what was said changes nothing.

## Main definitions

- `Graph.EachOnce`: what is listed, each once, in the order in which it is listed first
- `Graph.contained`: the tables that a listing has under its databases
- `Graph.Repeated`: an entry that says again what a listing says
- `Graph.ShowsListing`: what the graph of a listing shows

## Main results

- `Graph.eachOnce_eraseDups`: leaving repeats out keeps each first place
- `Graph.edges_ofDatabases`: the edges of the graph of a listing
- `Graph.toJson_injective`: elements that differ are written differently
- `graph_is_listing_without_repeats`: what the graph of every listing shows
-/

namespace QueryConsole

namespace Graph

/-! ## Each once -/

section EachOnce

variable {α : Type} [BEq α]

/-- What is listed, each once, in the order in which it is listed first. -/
structure EachOnce (shown listed : List α) : Prop where
  mem : ∀ a, a ∈ shown ↔ a ∈ listed
  order : shown.Pairwise fun a b => listed.idxOf a < listed.idxOf b

theorem EachOnce.nodup {shown listed : List α} (h : EachOnce shown listed) : shown.Nodup := by
  refine h.order.imp fun {a b} hlt => ?_
  rintro rfl
  exact Nat.lt_irrefl _ hlt

variable [LawfulBEq α]

/-- In a list without its repeats everything keeps the order of its first places. The induction is
on the list from its end, where a new entry comes behind all others. -/
theorem eachOnce_eraseDups (listed : List α) : EachOnce listed.eraseDups listed := by
  refine ⟨fun _ => List.mem_eraseDups, ?_⟩
  induction listed using List.reverseRecOn with
  | nil => simp
  | append_singleton listed a ih =>
    have hplace : ∀ b ∈ listed.eraseDups, (listed ++ [a]).idxOf b = listed.idxOf b :=
      fun b hb => List.idxOf_append_of_mem (List.mem_eraseDups.1 hb)
    have hbefore : listed.eraseDups.Pairwise
        fun b c => (listed ++ [a]).idxOf b < (listed ++ [a]).idxOf c := by
      refine ih.imp_of_mem fun {b c} hb hc hlt => ?_
      rwa [hplace b hb, hplace c hc]
    by_cases ha : a ∈ listed
    · rwa [eraseDups_concat_of_mem ha]
    · rw [eraseDups_concat_of_not_mem ha, List.pairwise_append]
      refine ⟨hbefore, List.pairwise_singleton _ _, ?_⟩
      intro b hb c hc
      have hlast : (listed ++ [a]).idxOf a = listed.length := by
        rw [List.idxOf_append_of_notMem ha, List.idxOf_cons_self, Nat.add_zero]
      rw [List.mem_singleton.1 hc, hplace b hb, hlast]
      exact List.idxOf_lt_length_of_mem (List.mem_eraseDups.1 hb)

/-- What is listed again makes no difference. -/
theorem eraseDups_append_of_subset {listed again : List α} (h : ∀ a ∈ again, a ∈ listed) :
    (listed ++ again).eraseDups = listed.eraseDups := by
  have hnone : again.removeAll listed = [] := by
    refine List.filter_eq_nil_iff.2 fun a ha => ?_
    simp [h a ha]
  rw [List.eraseDups_append, hnone, List.eraseDups_nil, List.append_nil]

end EachOnce

/-! ## Edges -/

/-- The tables that a listing has under its databases, each with the name of its database. -/
def contained (databases : List Database) : List (String × String) :=
  databases.flatMap fun d => d.tables.map (Prod.mk d.name)

/-- The edges that a listing asks for. -/
theorem filter_isEdge (databases : List Database) :
    (databases.flatMap ofDatabase).filter Element.isEdge =
      (contained databases).map (Function.uncurry Element.edge) := by
  induction databases with
  | nil => rfl
  | cons d databases ih =>
    have hall : (d.tables.map (Element.edge d.name)).filter Element.isEdge =
        d.tables.map (Element.edge d.name) := by
      refine List.filter_eq_self.2 fun e he => ?_
      obtain ⟨table, _, rfl⟩ := List.mem_map.1 he
      rfl
    have hhead : (ofDatabase d).filter Element.isEdge = d.tables.map (Element.edge d.name) := by
      rw [ofDatabase, List.filter_cons_of_neg (by simp [Element.isEdge, Element.isNode]), hall]
    have hcontained : contained (d :: databases) =
        d.tables.map (Prod.mk d.name) ++ contained databases := rfl
    rw [List.flatMap_cons, List.filter_append, hhead, ih, hcontained, List.map_append,
      List.map_map]
    rfl

/-- The edges of the graph of a listing are the tables under its databases, each once. -/
theorem edges_ofDatabases (databases : List Database) :
    (ofDatabases databases).edges =
      (contained databases).eraseDups.map (Function.uncurry Element.edge) := by
  have hedge : Function.Injective (Function.uncurry Element.edge) := by
    rintro ⟨database, table⟩ ⟨database', table'⟩ h
    obtain ⟨rfl, rfl⟩ := Element.edge.inj h
    rfl
  rw [edges, elements_ofDatabases, filter_eraseDups, filter_isEdge, eraseDups_map hedge]

/-! ## Written elements -/

/-- Elements that differ are written differently: the source of an edge is a part of its target, and
what is left of the target is the table. -/
theorem toJson_injective : Function.Injective Element.toJson := by
  intro e f h
  cases e with
  | node database =>
    cases f with
    | node database' =>
      simp only [Element.toJson, Json.object.injEq, List.cons.injEq, Prod.mk.injEq,
        Json.text.injEq, true_and] at h
      rw [h.1]
    | edge database' table' => simp [Element.toJson] at h
  | edge database table =>
    cases f with
    | node database' => simp [Element.toJson] at h
    | edge database' table' =>
      simp only [Element.toJson, Element.target, Json.object.injEq, List.cons.injEq,
        Prod.mk.injEq, Json.text.injEq, true_and, and_true] at h
      obtain ⟨rfl, htarget⟩ := h
      rw [(String.append_right_inj _).1 htarget]

/-! ## The whole graph -/

/-- An entry that says again what a listing says: its database is there, and each of its tables is
there under that database. -/
def Repeated (databases : List Database) (d : Database) : Prop :=
  (∃ e ∈ databases, e.name = d.name) ∧
    ∀ table ∈ d.tables, ∃ e ∈ databases, e.name = d.name ∧ table ∈ e.tables

theorem mem_of_repeated {databases : List Database} {d : Database} (h : Repeated databases d) :
    ∀ e ∈ ofDatabase d, e ∈ databases.flatMap ofDatabase := by
  intro e he
  rw [ofDatabase, List.mem_cons] at he
  obtain rfl | he := he
  · obtain ⟨other, hother, hname⟩ := h.1
    exact List.mem_flatMap.2 ⟨other, hother, by simp [ofDatabase, hname]⟩
  · obtain ⟨table, htable, rfl⟩ := List.mem_map.1 he
    obtain ⟨other, hother, hname, hmem⟩ := h.2 table htable
    exact List.mem_flatMap.2 ⟨other, hother, by simp [ofDatabase, hname, hmem]⟩

/-- Entries that say again what the listing says change nothing. -/
theorem ofDatabases_append_of_repeated {databases again : List Database}
    (h : ∀ d ∈ again, Repeated databases d) :
    ofDatabases (databases ++ again) = ofDatabases databases := by
  have hsubset : ∀ e ∈ again.flatMap ofDatabase, e ∈ databases.flatMap ofDatabase := by
    intro e he
    obtain ⟨d, hd, he⟩ := List.mem_flatMap.1 he
    exact mem_of_repeated (h d hd) e he
  apply congrArg Graph.mk
  have helements := elements_ofDatabases (databases ++ again)
  rw [List.flatMap_append, eraseDups_append_of_subset hsubset, ← elements_ofDatabases] at helements
  exact helements

/-- What the graph of a listing shows. -/
structure ShowsListing (databases : List Database) (g : Graph) : Prop where
  /-- a node for each name -/
  nodes : ∃ ids, EachOnce ids (databases.map Database.name) ∧
    g.nodes = ids.map Element.node ∧
    g.nodes.map Element.toJson =
      ids.map fun id => .object [("id", .text id), ("label", .text id)]
  /-- an edge for each table under a name, from the one to the other -/
  edges : ∃ pairs, EachOnce pairs (contained databases) ∧
    g.edges = pairs.map (Function.uncurry Element.edge) ∧
    g.edges.map Element.toJson = pairs.map fun (database, table) =>
      .object [("source", .text database), ("target", .text (database ++ "." ++ table)),
        ("label", .text "contains")]
  /-- also as they are written, no two elements are the same -/
  written : (g.elements.map Element.toJson).Nodup
  sourced : Sourced g.elements

end Graph

/-- The graph of a listing has a node for each of its names and an edge for each table it has under
a name, each once and in the order in which it is listed first. Every edge comes after the node of
its source, and entries that say again what the listing says change nothing. -/
theorem graph_is_listing_without_repeats (databases : List Database) :
    Graph.ShowsListing databases (Graph.ofDatabases databases) ∧
      ∀ again : List Database, (∀ d ∈ again, Graph.Repeated databases d) →
        Graph.ofDatabases (databases ++ again) = Graph.ofDatabases databases := by
  refine ⟨⟨?_, ?_, ?_, Graph.sourced_ofDatabases databases⟩,
    fun again hagain => Graph.ofDatabases_append_of_repeated hagain⟩
  · refine ⟨_, Graph.eachOnce_eraseDups _, Graph.nodes_ofDatabases databases, ?_⟩
    rw [Graph.nodes_ofDatabases, List.map_map]
    rfl
  · refine ⟨_, Graph.eachOnce_eraseDups _, Graph.edges_ofDatabases databases, ?_⟩
    rw [Graph.edges_ofDatabases, List.map_map]
    rfl
  · rw [Graph.elements_ofDatabases]
    exact (Graph.eachOnce_eraseDups _).nodup.map Graph.toJson_injective

/-- A listing in which a database comes twice, followed by an entry that has nothing new. -/
theorem graph_is_listing_without_repeats_shop :
    Graph.Repeated [⟨"shop", ["orders", "orders"]⟩, ⟨"hr", []⟩, ⟨"shop", ["users"]⟩]
        ⟨"shop", ["users", "orders"]⟩ ∧
      Graph.ofDatabases ([⟨"shop", ["orders", "orders"]⟩, ⟨"hr", []⟩, ⟨"shop", ["users"]⟩] ++
          [⟨"shop", ["users", "orders"]⟩]) =
        Graph.ofDatabases [⟨"shop", ["orders", "orders"]⟩, ⟨"hr", []⟩, ⟨"shop", ["users"]⟩] ∧
      Graph.ofDatabases [⟨"shop", ["orders", "orders"]⟩, ⟨"hr", []⟩, ⟨"shop", ["users"]⟩] =
        ⟨[.node "shop", .edge "shop" "orders", .node "hr", .edge "shop" "users"]⟩ := by
  have hrepeated : Graph.Repeated
      [⟨"shop", ["orders", "orders"]⟩, ⟨"hr", []⟩, ⟨"shop", ["users"]⟩]
      ⟨"shop", ["users", "orders"]⟩ := by
    simp [Graph.Repeated]
  refine ⟨hrepeated, (graph_is_listing_without_repeats _).2 _ ?_, by decide⟩
  simpa using hrepeated

end QueryConsole
