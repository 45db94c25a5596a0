import Mathlib.Data.Option.Basic
import QueryConsole.Proofs.Toml.Tables

/-!
# The order of keys

The keys of a table may stand in any order, and so may those of the tables inside it. Two values
that differ in nothing else hold the same under every key and at every position, again but for the
order of keys.

## Main definitions

- `Toml.Reordered`: values that are the same but for the order of keys, at any depth
- `Toml.Matches`: values whose entries or items are the same but for the order of keys

## Main results

- `Toml.Reordered.matches_of_proper`: reordered values match, and reordering keeps a value proper
-/

namespace QueryConsole

namespace Toml

/-- Values that are the same but for the order of keys, at any depth. -/
inductive Reordered : Value → Value → Prop
  | refl (v : Value) : Reordered v v
  | trans {v w x : Value} (h : Reordered v w) (h' : Reordered w x) : Reordered v x
  /-- the keys of a table in another order -/
  | keys {entries entries' : Entries} (h : entries.Perm entries') :
      Reordered (.table entries) (.table entries')
  /-- another order within the value of a key -/
  | entry (before after : Entries) (key : String) {v v' : Value} (h : Reordered v v') :
      Reordered (.table (before ++ (key, v) :: after)) (.table (before ++ (key, v') :: after))
  /-- another order within an item of a list -/
  | item (before after : List Value) {v v' : Value} (h : Reordered v v') :
      Reordered (.list (before ++ v :: after)) (.list (before ++ v' :: after))

/-- Values whose entries, key by key, or items, place by place, are the same but for the order of
keys. -/
inductive Matches : Value → Value → Prop
  | table {entries entries' : Entries}
      (h : ∀ key : String, Option.Rel Reordered (entries.lookup key) (entries'.lookup key)) :
      Matches (.table entries) (.table entries')
  | list {items items' : List Value} (h : ∀ i : Nat, Option.Rel Reordered items[i]? items'[i]?) :
      Matches (.list items) (.list items')
  | other (v : Value) (hlist : ∀ items, v ≠ .list items) (htable : ∀ entries, v ≠ .table entries) :
      Matches v v

variable {v v' w : Value}

theorem rel_refl (x : Option Value) : Option.Rel Reordered x x := by
  cases x with
  | none => exact .none
  | some v => exact .some (.refl v)

theorem rel_trans {x y z : Option Value} (h : Option.Rel Reordered x y)
    (h' : Option.Rel Reordered y z) : Option.Rel Reordered x z := by
  cases h with
  | none => exact h'
  | some h =>
    cases h' with
    | some h' => exact .some (h.trans h')

theorem Matches.refl (v : Value) : Matches v v := by
  cases v with
  | table entries => exact .table fun key => rel_refl _
  | list items => exact .list fun i => rel_refl _
  | _ => exact .other _ (fun _ h => nomatch h) (fun _ h => nomatch h)

theorem Matches.trans (h : Matches v v') (h' : Matches v' w) : Matches v w := by
  cases h with
  | table h =>
    cases h' with
    | table h' => exact .table fun key => rel_trans (h key) (h' key)
    | other => exact .table h
  | list h =>
    cases h' with
    | list h' => exact .list fun i => rel_trans (h i) (h' i)
    | other => exact .list h
  | other => exact h'

/-! ## Lookups in another order -/

theorem lookup_of_mem {entries : Entries} {key : String} (distinct : (entries.map Prod.fst).Nodup)
    (h : (key, v) ∈ entries) : entries.lookup key = some v := by
  obtain ⟨before, after, rfl⟩ := List.append_of_mem h
  refine List.lookup_eq_some_iff.2 ⟨before, after, rfl, ?_⟩
  intro e he
  rw [List.map_append, List.map_cons] at distinct
  have hne : e.1 ≠ key := by
    rintro rfl
    exact List.disjoint_of_nodup_append distinct (List.mem_map_of_mem he) List.mem_cons_self
  simpa using hne.symm

/-- The value of a key does not depend on the order of the entries. -/
theorem lookup_perm {entries entries' : Entries} (distinct : (entries.map Prod.fst).Nodup)
    (h : entries.Perm entries') (key : String) : entries.lookup key = entries'.lookup key := by
  have distinct' := (h.map Prod.fst).nodup_iff.1 distinct
  ext v
  constructor
  · intro hv
    exact lookup_of_mem distinct' (h.mem_iff.1 (mem_of_lookup hv))
  · intro hv
    exact lookup_of_mem distinct (h.mem_iff.2 (mem_of_lookup hv))

theorem rel_lookup_entry (before after : Entries) (key other : String) (h : Reordered v v') :
    Option.Rel Reordered ((before ++ (key, v) :: after).lookup other)
      ((before ++ (key, v') :: after).lookup other) := by
  rw [List.lookup_append, List.lookup_append]
  cases before.lookup other with
  | some w => exact rel_refl _
  | none =>
    rw [Option.none_or, Option.none_or, List.lookup_cons, List.lookup_cons]
    cases other == key with
    | true => exact .some h
    | false => exact rel_refl _

theorem rel_getElem?_item (before after : List Value) (i : Nat) (h : Reordered v v') :
    Option.Rel Reordered (before ++ v :: after)[i]? (before ++ v' :: after)[i]? := by
  rw [List.getElem?_append, List.getElem?_append]
  split
  · exact rel_refl _
  · cases i - before.length with
    | zero => exact .some h
    | succ i => exact rel_refl _

/-! ## Reordered values match -/

/-- Reordering keeps a value proper, and the two match. -/
theorem Reordered.matches_of_proper (h : Reordered v v') (proper : v.Proper) :
    v'.Proper ∧ Matches v v' := by
  induction h with
  | refl v => exact ⟨proper, .refl v⟩
  | trans _ _ ih ih' =>
    obtain ⟨proper', hmatches⟩ := ih proper
    obtain ⟨proper'', hmatches'⟩ := ih' proper'
    exact ⟨proper'', hmatches.trans hmatches'⟩
  | keys h =>
    refine ⟨.table ((h.map Prod.fst).nodup_iff.1 proper.distinct) ?_, .table ?_⟩
    · exact fun e he => proper.of_table e (h.mem_iff.2 he)
    · intro key
      rw [lookup_perm proper.distinct h]
      exact rel_refl _
  | entry before after key h ih =>
    obtain ⟨hbefore, hvalue, hafter⟩ : _ ∧ _ ∧ _ := by
      simpa only [List.forall_mem_append, List.forall_mem_cons] using proper.of_table
    refine ⟨.table ?_ ?_, .table fun other => rel_lookup_entry before after key other h⟩
    · simpa using proper.distinct
    · exact List.forall_mem_append.2 ⟨hbefore, List.forall_mem_cons.2 ⟨(ih hvalue).1, hafter⟩⟩
  | item before after h ih =>
    obtain ⟨hbefore, hvalue, hafter⟩ : _ ∧ _ ∧ _ := by
      simpa only [List.forall_mem_append, List.forall_mem_cons] using proper.of_list
    refine ⟨.list ?_, .list fun i => rel_getElem?_item before after i h⟩
    exact List.forall_mem_append.2 ⟨hbefore, List.forall_mem_cons.2 ⟨(ih hvalue).1, hafter⟩⟩

end Toml

end QueryConsole
