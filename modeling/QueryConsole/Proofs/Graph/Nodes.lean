import Mathlib.Logic.Function.Basic
import QueryConsole.Proofs.Graph.Sketch

/-!
# The nodes of a graph

The nodes of the graph of a listing are the names of its databases, without what is repeated, in the
order in which they come first.

## Main results

- `Graph.filter_eraseDups`, `Graph.eraseDups_map`: repeats can be left out before or after a
  selection and an injective change
- `Graph.nodes_ofDatabases`: the nodes of the graph of a listing
-/

namespace QueryConsole

namespace Graph

variable {α β : Type} [BEq α] [LawfulBEq α] [BEq β] [LawfulBEq β]

/-- Of a list without repeats a part is taken as of the whole list. The repeats of the head are out
of the way after one step, so the induction is on the length. -/
theorem filter_eraseDups (p : α → Bool) (l : List α) :
    l.eraseDups.filter p = (l.filter p).eraseDups := by
  induction h : l.length using Nat.strongRecOn generalizing l with
  | ind n ih =>
    cases l with
    | nil => rfl
    | cons a l =>
      have hshort : (l.filter fun b => !b == a).length < n :=
        h ▸ Nat.lt_succ_of_le (List.length_filter_le _ _)
      have hrest := ih _ hshort _ rfl
      rw [List.eraseDups_cons]
      by_cases ha : p a = true
      · rw [List.filter_cons_of_pos ha, List.filter_cons_of_pos ha, List.eraseDups_cons, hrest,
          List.filter_filter, List.filter_filter]
        simp only [Bool.and_comm]
      · rw [List.filter_cons_of_neg ha, List.filter_cons_of_neg ha, hrest, List.filter_filter]
        -- what passes the test is different from the head anyway
        refine congrArg List.eraseDups (List.filter_congr fun b _ => ?_)
        cases hb : p b with
        | false => rfl
        | true =>
          have hne : b ≠ a := by
            rintro rfl
            exact ha hb
          simp [hne]

theorem eraseDups_map {f : α → β} (hf : Function.Injective f) (l : List α) :
    (l.map f).eraseDups = l.eraseDups.map f := by
  induction h : l.length using Nat.strongRecOn generalizing l with
  | ind n ih =>
    cases l with
    | nil => rfl
    | cons a l =>
      have hshort : (l.filter fun b => !b == a).length < n :=
        h ▸ Nat.lt_succ_of_le (List.length_filter_le _ _)
      have hrest := ih _ hshort _ rfl
      have hfilter : (l.map f).filter (fun b => !b == f a) =
          (l.filter fun b => !b == a).map f := by
        rw [List.filter_map]
        refine congrArg (List.map f) (List.filter_congr fun b _ => ?_)
        simp [hf.beq_eq]
      rw [List.map_cons, List.eraseDups_cons, List.eraseDups_cons, List.map_cons, hfilter, hrest]

/-- The nodes that a listing asks for. -/
theorem filter_isNode (databases : List Database) :
    (databases.flatMap ofDatabase).filter Element.isNode =
      (databases.map Database.name).map Element.node := by
  induction databases with
  | nil => rfl
  | cons d databases ih =>
    have hedges : (d.tables.map (Element.edge d.name)).filter Element.isNode = [] := by
      refine List.filter_eq_nil_iff.2 fun e he => ?_
      obtain ⟨table, _, rfl⟩ := List.mem_map.1 he
      simp [Element.isNode]
    have hhead : (ofDatabase d).filter Element.isNode = [.node d.name] := by
      rw [ofDatabase, List.filter_cons_of_pos rfl, hedges]
    rw [List.flatMap_cons, List.filter_append, hhead, ih]
    rfl

/-- The nodes of the graph of a listing are its names, each once, in the order of the listing. -/
theorem nodes_ofDatabases (databases : List Database) :
    (ofDatabases databases).nodes =
      (databases.map Database.name).eraseDups.map Element.node := by
  have hnode : Function.Injective Element.node := fun a b h => Element.node.inj h
  rw [nodes, elements_ofDatabases, filter_eraseDups, filter_isNode, eraseDups_map hnode]

end Graph

end QueryConsole
