import Mathlib.Data.List.Nodup
import Mathlib.Data.List.Forall2
import QueryConsole.Json.Basic

/-!
# Members of objects

An object that holds each key once can be read by key or member by member. A reader that folds over
the members succeeds when it accepts each of them, and a field that only the member of one name can
set ends up as that member says, whatever the order of the members.

## Main definitions

- `Json.Proper`: every object within a value holds each key once
- `Json.IsField`: only the member of one name sets a part of what a reader builds

## Main results

- `Json.putAll_nodup`: putting members one by one leaves each key once
- `Json.foldlM_ok_iff`: a reader succeeds when it accepts every member
- `Json.IsField.foldlM`: a field holds what the member of its name was read as
-/

namespace QueryConsole

namespace Json

/-- Every object within the value holds each key once. -/
inductive Proper : Json → Prop
  | null : Proper .null
  | bool (b : Bool) : Proper (.bool b)
  | integer (n : Int) : Proper (.integer n)
  | double (x : Double) : Proper (.double x)
  | text (s : String) : Proper (.text s)
  | list {items : List Json} (each : ∀ v ∈ items, Proper v) : Proper (.list items)
  | object {members : List (String × Json)} (distinct : (members.map Prod.fst).Nodup)
      (each : ∀ m ∈ members, Proper m.2) : Proper (.object members)

theorem Proper.of_list {items : List Json} (h : Proper (.list items)) : ∀ v ∈ items, v.Proper := by
  cases h with
  | list each => exact each

theorem Proper.distinct {members : List (String × Json)} (h : Proper (.object members)) :
    (members.map Prod.fst).Nodup := by
  cases h with
  | object distinct each => exact distinct

theorem Proper.of_object {members : List (String × Json)} (h : Proper (.object members)) :
    ∀ m ∈ members, m.2.Proper := by
  cases h with
  | object distinct each => exact each

/-! ## Reading by key -/

theorem mem_of_lookup {members : List (String × Json)} {key : String} {v : Json}
    (h : lookup members key = some v) : (key, v) ∈ members := by
  induction members with
  | nil => simp [lookup] at h
  | cons m rest ih =>
    rw [lookup] at h
    split at h
    · next heq =>
      cases h
      exact heq ▸ List.mem_cons_self
    · exact List.mem_cons_of_mem _ (ih h)

theorem lookup_eq_none_iff {members : List (String × Json)} {key : String} :
    lookup members key = none ↔ key ∉ members.map Prod.fst := by
  induction members with
  | nil => simp [lookup]
  | cons m rest ih =>
    rw [lookup]
    split
    · next heq => simp [heq]
    · next hne =>
      rw [ih, List.map_cons, List.mem_cons, not_or]
      exact ⟨fun h => ⟨fun heq => hne heq.symm, h⟩, fun h => h.2⟩

theorem lookup_of_mem {members : List (String × Json)} {key : String} {v : Json}
    (distinct : (members.map Prod.fst).Nodup) (h : (key, v) ∈ members) :
    lookup members key = some v := by
  induction members with
  | nil => simp at h
  | cons m rest ih =>
    rw [List.map_cons, List.nodup_cons] at distinct
    rcases List.mem_cons.1 h with rfl | hrest
    · simp [lookup]
    · have hkey : key ∈ rest.map Prod.fst := List.mem_map.2 ⟨_, hrest, rfl⟩
      have hne : m.1 ≠ key := fun heq => distinct.1 (heq ▸ hkey)
      rw [lookup, if_neg hne]
      exact ih distinct.2 hrest

/-- A property of the member of every key is a property of every member. -/
theorem forall_lookup_iff {members : List (String × Json)} {P : String → Json → Prop}
    (distinct : (members.map Prod.fst).Nodup) :
    (∀ key v, lookup members key = some v → P key v) ↔ ∀ m ∈ members, P m.1 m.2 := by
  constructor
  · rintro h ⟨key, v⟩ hm
    exact h key v (lookup_of_mem distinct hm)
  · intro h key v hlookup
    exact h (key, v) (mem_of_lookup hlookup)

/-- The value of a key does not depend on the order of the members. -/
theorem lookup_perm {members members' : List (String × Json)} {key : String}
    (distinct : (members.map Prod.fst).Nodup) (hperm : members.Perm members') :
    lookup members key = lookup members' key := by
  have hdistinct := (hperm.map Prod.fst).nodup_iff.1 distinct
  ext v
  constructor
  · intro h
    exact lookup_of_mem hdistinct (hperm.mem_iff.1 (mem_of_lookup h))
  · intro h
    exact lookup_of_mem distinct (hperm.mem_iff.2 (mem_of_lookup h))

/-! ## Values in a list under names -/

theorem keys_zip_sublist (names : List String) (items : List Json) :
    ((names.zip items).map Prod.fst).Sublist names := by
  induction names generalizing items with
  | nil => exact .slnil
  | cons name rest ih =>
    cases items with
    | nil => exact List.nil_sublist _
    | cons v items => exact (ih items).cons_cons name

/-- The value of a name in a list of values is the one in its place. -/
theorem lookup_zip {names : List String} {items : List Json} {i : Nat} {name : String}
    (distinct : names.Nodup) (h : names[i]? = some name) :
    lookup (names.zip items) name = items[i]? := by
  induction names generalizing items i with
  | nil => simp at h
  | cons first rest ih =>
    rw [List.nodup_cons] at distinct
    cases items with
    | nil => rfl
    | cons v items =>
      rw [List.zip_cons_cons, lookup]
      cases i with
      | zero =>
        have heq : first = name := by simpa using h
        rw [if_pos heq, List.getElem?_cons_zero]
      | succ i =>
        have hrest : rest[i]? = some name := by simpa using h
        have hne : first ≠ name := fun heq => distinct.1 (heq ▸ List.mem_of_getElem? hrest)
        rw [if_neg hne, List.getElem?_cons_succ]
        exact ih distinct.2 hrest

/-! ## Putting members -/

theorem mem_put {members : List (String × Json)} {key : String} {value : Json} {m : String × Json}
    (h : m ∈ put members key value) : m ∈ members ∨ m = (key, value) := by
  induction members with
  | nil =>
    rw [put, List.mem_singleton] at h
    exact .inr h
  | cons entry rest ih =>
    rw [put] at h
    split at h
    · next heq =>
      rcases List.mem_cons.1 h with rfl | hrest
      · exact .inr (by rw [heq])
      · exact .inl (List.mem_cons_of_mem _ hrest)
    · rcases List.mem_cons.1 h with rfl | hrest
      · exact .inl List.mem_cons_self
      · exact (ih hrest).imp_left (List.mem_cons_of_mem _)

theorem put_nodup {members : List (String × Json)} (key : String) (value : Json)
    (distinct : (members.map Prod.fst).Nodup) : ((put members key value).map Prod.fst).Nodup := by
  induction members with
  | nil => simp [put]
  | cons entry rest ih =>
    rw [List.map_cons, List.nodup_cons] at distinct
    rw [put]
    split
    · exact List.nodup_cons.2 distinct
    · next hne =>
      refine List.nodup_cons.2 ⟨?_, ih distinct.2⟩
      intro hmem
      obtain ⟨m, hm, hkey⟩ := List.mem_map.1 hmem
      rcases mem_put hm with hrest | rfl
      · exact distinct.1 (hkey ▸ List.mem_map.2 ⟨m, hrest, rfl⟩)
      · exact hne hkey.symm

/-- Putting members one by one leaves each key once, and every value is one that was put. -/
theorem foldl_put (entries members : List (String × Json))
    (distinct : (members.map Prod.fst).Nodup) :
    let all := entries.foldl (fun members entry => put members entry.1 entry.2) members
    (all.map Prod.fst).Nodup ∧ ∀ m ∈ all, m ∈ members ∨ m ∈ entries := by
  induction entries generalizing members with
  | nil => exact ⟨distinct, fun m hm => .inl hm⟩
  | cons entry rest ih =>
    obtain ⟨hnodup, hmem⟩ := ih _ (put_nodup entry.1 entry.2 distinct)
    refine ⟨hnodup, fun m hm => ?_⟩
    rcases hmem m hm with hput | hrest
    · rcases mem_put hput with hold | rfl
      · exact .inl hold
      · exact .inr List.mem_cons_self
    · exact .inr (List.mem_cons_of_mem _ hrest)

theorem putAll_nodup (entries : List (String × Json)) :
    ((putAll entries).map Prod.fst).Nodup :=
  (foldl_put entries [] List.nodup_nil).1

theorem mem_of_mem_putAll {entries : List (String × Json)} {m : String × Json}
    (h : m ∈ putAll entries) : m ∈ entries :=
  ((foldl_put entries [] List.nodup_nil).2 m h).resolve_left List.not_mem_nil

theorem put_of_not_mem {members : List (String × Json)} {key : String} (value : Json)
    (h : key ∉ members.map Prod.fst) : put members key value = members ++ [(key, value)] := by
  induction members with
  | nil => rfl
  | cons m rest ih =>
    rw [List.map_cons, List.mem_cons, not_or] at h
    rw [put, if_neg (Ne.symm h.1), ih h.2, List.cons_append]

/-- Members with distinct keys are left as they are. -/
theorem putAll_of_nodup {entries : List (String × Json)} (h : (entries.map Prod.fst).Nodup) :
    putAll entries = entries := by
  have hput (entries members : List (String × Json))
      (h : ((members ++ entries).map Prod.fst).Nodup) :
      entries.foldl (fun members entry => put members entry.1 entry.2) members =
        members ++ entries := by
    induction entries generalizing members with
    | nil => simp
    | cons entry rest ih =>
      have hsplit : members ++ entry :: rest = members ++ [entry] ++ rest := by simp
      have hnew : entry.1 ∉ members.map Prod.fst := by
        rw [List.map_append, List.map_cons] at h
        exact fun hmem => List.disjoint_of_nodup_append h hmem List.mem_cons_self
      rw [List.foldl_cons, put_of_not_mem entry.2 hnew, ih _ (hsplit ▸ h), hsplit]
  exact hput entries [] h

/-! ## Reading member by member -/

section Fold

variable {ε σ α : Type} {read : σ → String → Json → Except ε σ}

/-- A reader succeeds when it accepts every member. -/
theorem foldlM_ok_iff {Accepts : String → Json → Prop}
    (haccepts : ∀ s key v, (∃ s', read s key v = .ok s') ↔ Accepts key v)
    (members : List (String × Json)) (s : σ) :
    (∃ s', members.foldlM (fun s m => read s m.1 m.2) s = .ok s') ↔
      ∀ m ∈ members, Accepts m.1 m.2 := by
  induction members generalizing s with
  | nil => simp [pure, Except.pure]
  | cons m rest ih =>
    rw [List.forall_mem_cons, ← haccepts s m.1 m.2, List.foldlM_cons]
    cases hm : read s m.1 m.2 with
    | error e => simp [bind, Except.bind]
    | ok t => simpa [bind, Except.bind] using ih t

/-- Only the member of one name sets a part of what a reader builds, and sets it to what its value
is read as. -/
structure IsField (read : σ → String → Json → Except ε σ) (name : String) (get : σ → α)
    (decode : Json → Except ε α) : Prop where
  set : ∀ {s v s'}, read s name v = .ok s' → decode v = .ok (get s')
  keep : ∀ {s key v s'}, key ≠ name → read s key v = .ok s' → get s' = get s

variable {name : String} {get : σ → α} {decode : Json → Except ε α}

theorem IsField.foldlM_keep (hfield : IsField read name get decode)
    {members : List (String × Json)} {s s' : σ} (habsent : lookup members name = none)
    (h : members.foldlM (fun s m => read s m.1 m.2) s = .ok s') : get s' = get s := by
  induction members generalizing s with
  | nil =>
    cases h
    rfl
  | cons m rest ih =>
    rw [lookup] at habsent
    split at habsent
    · cases habsent
    · next hne =>
      rw [List.foldlM_cons] at h
      cases hm : read s m.1 m.2 with
      | error e =>
        rw [hm] at h
        cases h
      | ok t =>
        rw [hm] at h
        rw [ih habsent h, hfield.keep hne hm]

/-- A field holds what the member of its name was read as, and is left alone without one. -/
theorem IsField.foldlM (hfield : IsField read name get decode)
    {members : List (String × Json)} {s s' : σ} (distinct : (members.map Prod.fst).Nodup)
    (h : members.foldlM (fun s m => read s m.1 m.2) s = .ok s') :
    (lookup members name).elim (.ok (get s)) decode = .ok (get s') := by
  induction members generalizing s with
  | nil =>
    cases h
    rfl
  | cons m rest ih =>
    rw [List.map_cons, List.nodup_cons] at distinct
    rw [List.foldlM_cons] at h
    cases hm : read s m.1 m.2 with
    | error e =>
      rw [hm] at h
      cases h
    | ok t =>
      rw [hm] at h
      rw [lookup]
      split
      · next heq =>
        -- No later member has this name, so the field keeps what this one set.
        have habsent : lookup rest name = none := lookup_eq_none_iff.2 (heq ▸ distinct.1)
        rw [heq] at hm
        rw [Option.elim_some, hfield.foldlM_keep habsent h]
        exact hfield.set hm
      · next hne =>
        rw [← hfield.keep hne hm]
        exact ih distinct.2 h

end Fold

end Json

end QueryConsole
