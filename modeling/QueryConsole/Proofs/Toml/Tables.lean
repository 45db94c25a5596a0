import Mathlib.Data.List.Nodup
import QueryConsole.Toml.Document

/-!
# The tables of a document

A table that is built line by line holds each key once: a key is put at its end only if nothing is
under it, and every other change gives a key that is there another meaning. Tables in braces are
built in the same way, so the rule holds at every depth of a document.

## Main definitions

- `Toml.Value.Proper`: every table within a value holds each key once
- `Toml.Tidy`: the same of a table under construction

## Main results

- `Toml.Tidy.assign`, `Toml.Tidy.within`: what a line does to a table keeps it tidy
- `Toml.Tidy.finish`: a tidy table is finished to a proper one
- `Toml.proper_of_parse`: every document is proper
-/

namespace QueryConsole

namespace Toml

/-- Every table within the value holds each key once. -/
inductive Value.Proper : Value → Prop
  | text (s : String) : Proper (.text s)
  | integer (n : Int) : Proper (.integer n)
  | float : Proper .float
  | boolean (b : Bool) : Proper (.boolean b)
  | moment : Proper .moment
  | list {items : List Value} (each : ∀ v ∈ items, Proper v) : Proper (.list items)
  | table {entries : Entries} (distinct : (entries.map Prod.fst).Nodup)
      (each : ∀ e ∈ entries, Proper e.2) : Proper (.table entries)

theorem Value.Proper.of_list {items : List Value} (h : Proper (.list items)) :
    ∀ v ∈ items, v.Proper := by
  cases h with
  | list each => exact each

theorem Value.Proper.distinct {entries : Entries} (h : Proper (.table entries)) :
    (entries.map Prod.fst).Nodup := by
  cases h with
  | table distinct each => exact distinct

theorem Value.Proper.of_table {entries : Entries} (h : Proper (.table entries)) :
    ∀ e ∈ entries, e.2.Proper := by
  cases h with
  | table distinct each => exact each

/-- What a key stands for is made of proper values and tables that hold each key once. -/
inductive Node.Proper : Node → Prop
  | value {v : Value} (h : v.Proper) : Proper (.value v)
  | table (standing : Standing) {entries : Nodes} (distinct : (entries.map Prod.fst).Nodup)
      (each : ∀ e ∈ entries, Proper e.2) : Proper (.table standing entries)
  | tables {items : List Nodes} (distinct : ∀ entries ∈ items, (entries.map Prod.fst).Nodup)
      (each : ∀ entries ∈ items, ∀ e ∈ entries, Proper e.2) : Proper (.tables items)

/-- A table under construction that holds each key once, at every depth. -/
structure Tidy (entries : Nodes) : Prop where
  distinct : (entries.map Prod.fst).Nodup
  each : ∀ e ∈ entries, e.2.Proper

variable {entries entries' : Nodes} {key : String} {node : Node} {v : Value}

theorem Tidy.nil : Tidy [] := ⟨List.nodup_nil, by simp⟩

/-! ## Lookups -/

theorem mem_of_lookup {α : Type} {members : List (String × α)} {a : α}
    (h : members.lookup key = some a) : (key, a) ∈ members := by
  obtain ⟨before, after, rfl, _⟩ := List.lookup_eq_some_iff.1 h
  exact List.mem_append_right _ List.mem_cons_self

theorem not_mem_of_lookup {α : Type} {members : List (String × α)}
    (h : members.lookup key = none) : key ∉ members.map Prod.fst := by
  intro hmem
  obtain ⟨e, he, rfl⟩ := List.mem_map.1 hmem
  simpa using List.lookup_eq_none_iff.1 h e he

theorem Tidy.lookup (h : Tidy entries) (hkey : entries.lookup key = some node) : node.Proper :=
  h.each _ (mem_of_lookup hkey)

theorem Tidy.table {standing : Standing} (h : Tidy entries) :
    (Node.table standing entries).Proper :=
  .table standing h.distinct h.each

theorem Tidy.of_table {standing : Standing} (h : (Node.table standing entries).Proper) :
    Tidy entries := by
  cases h with
  | table _ distinct each => exact ⟨distinct, each⟩

theorem Tidy.tables {items : List Nodes} (h : ∀ entries ∈ items, Tidy entries) :
    (Node.tables items).Proper :=
  .tables (fun entries hmem => (h entries hmem).distinct)
    (fun entries hmem => (h entries hmem).each)

theorem Tidy.of_tables {items : List Nodes} (h : (Node.tables items).Proper) :
    ∀ entries ∈ items, Tidy entries := by
  cases h with
  | tables distinct each => exact fun entries hmem => ⟨distinct entries hmem, each entries hmem⟩

/-- One of several tables under a header is exchanged for another. -/
theorem Tidy.tables_cons {last : Nodes} {before : List Nodes} (hlast : Tidy last)
    (h : ∀ entries ∈ before, Tidy entries) : (Node.tables (last :: before)).Proper :=
  .tables (List.forall_mem_cons.2 ⟨hlast.distinct, fun entries hmem => (h entries hmem).distinct⟩)
    (List.forall_mem_cons.2 ⟨hlast.each, fun entries hmem => (h entries hmem).each⟩)

/-! ## Changes of a table -/

/-- A new key comes last. -/
theorem Tidy.concat (h : Tidy entries) (hkey : entries.lookup key = none) (hnode : node.Proper) :
    Tidy (entries ++ [(key, node)]) := by
  constructor
  · rw [List.map_append, List.nodup_append']
    refine ⟨h.distinct, List.nodup_singleton _, ?_⟩
    rw [List.map_singleton, List.disjoint_singleton]
    exact not_mem_of_lookup hkey
  · intro e he
    obtain he | he := List.mem_append.1 he
    · exact h.each e he
    · rw [List.mem_singleton.1 he]
      exact hnode

/-- Giving a key another meaning leaves the keys as they are. -/
theorem keys_replace (key : String) (node : Node) (entries : Nodes) :
    (replace key node entries).map Prod.fst = entries.map Prod.fst := by
  rw [replace, List.map_map]
  apply List.map_congr_left
  intro e _
  by_cases h : e.1 = key <;> simp [h]

theorem Tidy.replace (h : Tidy entries) (hnode : node.Proper) :
    Tidy (replace key node entries) := by
  constructor
  · rw [keys_replace]
    exact h.distinct
  · intro e he
    obtain ⟨old, hold, rfl⟩ := List.mem_map.1 he
    split
    · exact hnode
    · exact h.each old hold

theorem Tidy.openTable (h : Tidy entries) (hopen : openTable key entries = some entries') :
    Tidy entries' := by
  unfold Toml.openTable at hopen
  split at hopen
  · next hkey =>
    cases hopen
    exact h.concat hkey Tidy.nil.table
  · next inner hkey =>
    cases hopen
    exact h.replace (Tidy.of_table (h.lookup hkey)).table
  · cases hopen

theorem Tidy.openEntry (h : Tidy entries) (hopen : openEntry key entries = some entries') :
    Tidy entries' := by
  unfold Toml.openEntry at hopen
  split at hopen
  · next hkey =>
    cases hopen
    exact h.concat hkey (Tidy.tables (by simpa using Tidy.nil))
  · next items hkey =>
    cases hopen
    exact h.replace (Tidy.tables_cons Tidy.nil (Tidy.of_tables (h.lookup hkey)))
  · cases hopen

/-- A change that keeps every table tidy does so wherever a path leads. -/
theorem Tidy.within {change : Nodes → Option Nodes}
    (hchange : ∀ {entries entries'}, Tidy entries → change entries = some entries' → Tidy entries')
    {path : List String} (h : Tidy entries) (hwithin : within change path entries = some entries') :
    Tidy entries' := by
  induction path generalizing entries entries' with
  | nil => exact hchange h hwithin
  | cons key path ih =>
    rw [Toml.within] at hwithin
    split at hwithin
    · next hkey =>
      obtain ⟨inner, hinner, hentries⟩ := Option.bind_eq_some_iff.1 hwithin
      cases hentries
      exact h.concat hkey (ih Tidy.nil hinner).table
    · cases hwithin
    · next standing inner hkey =>
      obtain ⟨inner', hinner, hentries⟩ := Option.bind_eq_some_iff.1 hwithin
      cases hentries
      exact h.replace (ih (Tidy.of_table (h.lookup hkey)) hinner).table
    · cases hwithin
    · next last before hkey =>
      obtain ⟨last', hlast, hentries⟩ := Option.bind_eq_some_iff.1 hwithin
      cases hentries
      have hall := List.forall_mem_cons.1 (Tidy.of_tables (h.lookup hkey))
      exact h.replace (Tidy.tables_cons (ih hall.1 hlast) hall.2)

/-- A proper value assigned to a path leaves a table tidy. -/
theorem Tidy.assign {fresh : Bool} {path : List String} (hv : v.Proper) (h : Tidy entries)
    (hassign : assign v fresh path entries = some entries') : Tidy entries' := by
  induction path generalizing fresh entries entries' with
  | nil => cases hassign
  | cons key path ih =>
    cases path with
    | nil =>
      rw [Toml.assign] at hassign
      split at hassign
      · next hfree =>
        cases hassign
        exact h.concat (Option.isNone_iff_eq_none.1 hfree.2) (.value hv)
      · cases hassign
    | cons next path =>
      rw [Toml.assign] at hassign
      split at hassign
      · next hkey =>
        obtain ⟨inner, hinner, hentries⟩ := Option.bind_eq_some_iff.1 hassign
        cases hentries
        exact h.concat hkey (ih Tidy.nil hinner).table
      · cases hassign
      · cases hassign
      · next standing inner _ hkey =>
        obtain ⟨inner', hinner, hentries⟩ := Option.bind_eq_some_iff.1 hassign
        cases hentries
        exact h.replace (ih (Tidy.of_table (h.lookup hkey)) hinner).table
      · cases hassign
      · next last before hkey =>
        obtain ⟨last', hlast, hentries⟩ := Option.bind_eq_some_iff.1 hassign
        cases hentries
        have hall := List.forall_mem_cons.1 (Tidy.of_tables (h.lookup hkey))
        exact h.replace (Tidy.tables_cons (ih hall.1 hlast) hall.2)

/-! ## Finished tables -/

theorem finish_eq_map (entries : Nodes) :
    finish entries = entries.map fun e => (e.1, e.2.toValue) := by
  induction entries with
  | nil => rfl
  | cons e rest ih =>
    rw [finish, ih]
    rfl

theorem mem_finishAll {done : List Value} {items : List Nodes} {w : Value}
    (h : w ∈ finishAll done items) : w ∈ done ∨ ∃ entries ∈ items, w = .table (finish entries) := by
  induction items generalizing done with
  | nil => exact .inl h
  | cons entries rest ih =>
    obtain hdone | ⟨other, hmem, hw⟩ := ih h
    · obtain rfl | hdone := List.mem_cons.1 hdone
      · exact .inr ⟨entries, List.mem_cons_self, rfl⟩
      · exact .inl hdone
    · exact .inr ⟨other, List.mem_cons_of_mem _ hmem, hw⟩

/-- A table is proper whose entries are finished to proper values. -/
theorem proper_finish (distinct : (entries.map Prod.fst).Nodup)
    (each : ∀ e ∈ entries, e.2.toValue.Proper) : (Value.table (finish entries)).Proper := by
  rw [finish_eq_map]
  refine .table ?_ ?_
  · rw [List.map_map]
    exact distinct
  · intro e he
    obtain ⟨old, hold, rfl⟩ := List.mem_map.1 he
    exact each old hold

theorem Node.Proper.toValue (h : node.Proper) : node.toValue.Proper := by
  induction h with
  | value h => exact h
  | table standing distinct _ ih => exact proper_finish distinct ih
  | tables distinct _ ih =>
    refine .list ?_
    intro w hw
    obtain hdone | ⟨entries, hmem, rfl⟩ := mem_finishAll hw
    · cases hdone
    · exact proper_finish (distinct entries hmem) (ih entries hmem)

/-- A tidy table is finished to a proper one. -/
theorem Tidy.finish (h : Tidy entries) : (Value.table (finish entries)).Proper :=
  proper_finish h.distinct fun e he => (h.each e he).toValue

/-! ## Values -/

variable {item : List Char → Option (Value × List Char)} {cs rest : List Char}

/-- A reader of values reads nothing but proper ones. -/
def ReadsProper (item : List Char → Option (Value × List Char)) : Prop :=
  ∀ {cs v rest}, item cs = some (v, rest) → v.Proper

theorem number_proper : ReadsProper number := by
  intro cs v rest h
  unfold number at h
  cases hmoment : moment cs with
  | some later =>
    rw [hmoment] at h
    cases h
    exact .moment
  | none =>
    cases hfloat : float cs with
    | some later =>
      rw [hmoment, hfloat] at h
      cases h
      exact .float
    | none =>
      rw [hmoment, hfloat] at h
      obtain ⟨⟨n, later⟩, _, heq⟩ := Option.map_eq_some_iff.1 (show (integer cs).map _ = _ from h)
      cases heq
      exact .integer n

theorem text_proper {read : Option (String × List Char)}
    (h : (read.map fun (s, rest) => (Value.text s, rest)) = some (v, rest)) : v.Proper := by
  obtain ⟨⟨s, later⟩, _, heq⟩ := Option.map_eq_some_iff.1 h
  cases heq
  exact .text s

theorem word_proper : ReadsProper word := by
  intro cs v rest h
  unfold word at h
  split at h
  · exact text_proper h
  · exact text_proper h
  · exact text_proper h
  · exact text_proper h
  · cases h
    exact .boolean true
  · cases h
    exact .boolean false
  · exact number_proper h

/-- A list of proper values is proper. -/
theorem items_proper (hitem : ReadsProper item) {done : List Value} {n : Nat}
    (hdone : ∀ w ∈ done, w.Proper) (h : items item done n cs = some (v, rest)) : v.Proper := by
  induction n generalizing done cs with
  | zero => cases h
  | succ n ih =>
    rw [items] at h
    split at h
    · cases h
      exact .list fun w hw => hdone w (List.mem_reverse.1 hw)
    · obtain ⟨⟨w, later⟩, hw, h⟩ := Option.bind_eq_some_iff.1 h
      have hdone' : ∀ w' ∈ w :: done, w'.Proper := List.forall_mem_cons.2 ⟨hitem hw, hdone⟩
      dsimp only at h
      split at h
      · exact ih hdone' h
      · cases h
        exact .list fun w hw => hdone' w (List.mem_reverse.1 hw)
      · cases h

theorem assignment_proper (hitem : ReadsProper item) {path : List String}
    (h : assignment item cs = some (path, v, rest)) : v.Proper := by
  obtain ⟨⟨path', later⟩, _, h⟩ := Option.bind_eq_some_iff.1 h
  obtain ⟨later', _, h⟩ := Option.bind_eq_some_iff.1 h
  obtain ⟨⟨w, last⟩, hw, h⟩ := Option.bind_eq_some_iff.1 h
  cases h
  exact hitem hw

/-- A table in braces is proper if its values are. -/
theorem members_proper (hitem : ReadsProper item) {done : Nodes} {n : Nat} (hdone : Tidy done)
    (h : members item done n cs = some (v, rest)) : v.Proper := by
  induction n generalizing done cs with
  | zero => cases h
  | succ n ih =>
    rw [members] at h
    obtain ⟨⟨path, w, later⟩, hw, h⟩ := Option.bind_eq_some_iff.1 h
    obtain ⟨done', hassign, h⟩ := Option.bind_eq_some_iff.1 h
    have hdone' := hdone.assign (assignment_proper hitem hw) hassign
    split at h
    · exact ih hdone' h
    · cases h
      exact hdone'.finish
    · cases h

theorem value_proper (depth : Nat) : ReadsProper (value depth) := by
  induction depth with
  | zero => exact word_proper
  | succ depth ih =>
    intro cs v rest h
    unfold value at h
    split at h
    · exact items_proper ih (by simp) h
    · split at h
      · cases h
        exact Tidy.nil.finish
      · exact members_proper ih Tidy.nil h
    · exact word_proper h

/-! ## Lines -/

variable {d d' : Draft}

theorem Draft.header_tidy {openIn : String → Nodes → Option Nodes} {path : List String}
    (hopen : ∀ {key entries entries'}, Tidy entries → openIn key entries = some entries' →
      Tidy entries')
    (h : Tidy d.root) (hheader : d.header openIn path = some d') : Tidy d'.root := by
  obtain ⟨last, _, hheader⟩ := Option.bind_eq_some_iff.1 hheader
  obtain ⟨root, hroot, heq⟩ := Option.bind_eq_some_iff.1 hheader
  cases heq
  exact h.within hopen hroot

/-- A line keeps the table of a draft tidy. -/
theorem Draft.line_tidy (h : Tidy d.root) (hline : d.line cs = some (d', rest)) : Tidy d'.root := by
  unfold Draft.line at hline
  split at hline
  · obtain ⟨⟨path, _⟩, _, hline⟩ := Option.bind_eq_some_iff.1 hline
    obtain ⟨_, _, hline⟩ := Option.bind_eq_some_iff.1 hline
    obtain ⟨_, _, hline⟩ := Option.bind_eq_some_iff.1 hline
    obtain ⟨_, _, hline⟩ := Option.bind_eq_some_iff.1 hline
    obtain ⟨next, hheader, heq⟩ := Option.bind_eq_some_iff.1 hline
    cases heq
    exact header_tidy Tidy.openEntry h hheader
  · obtain ⟨⟨path, _⟩, _, hline⟩ := Option.bind_eq_some_iff.1 hline
    obtain ⟨_, _, hline⟩ := Option.bind_eq_some_iff.1 hline
    obtain ⟨_, _, hline⟩ := Option.bind_eq_some_iff.1 hline
    obtain ⟨next, hheader, heq⟩ := Option.bind_eq_some_iff.1 hline
    cases heq
    exact header_tidy Tidy.openTable h hheader
  · split at hline
    · cases hline
      exact h
    · obtain ⟨⟨path, v, _⟩, hassignment, hline⟩ := Option.bind_eq_some_iff.1 hline
      obtain ⟨root, hroot, hline⟩ := Option.bind_eq_some_iff.1 hline
      obtain ⟨_, _, heq⟩ := Option.bind_eq_some_iff.1 hline
      cases heq
      have hv := assignment_proper (value_proper limit) hassignment
      exact h.within (fun hentries => hentries.assign hv) hroot

theorem Draft.lines_tidy {n : Nat} (h : Tidy d.root) (hlines : d.lines n cs = some d') :
    Tidy d'.root := by
  induction n generalizing d cs with
  | zero => cases hlines
  | succ n ih =>
    rw [Draft.lines] at hlines
    split at hlines
    · cases hlines
      exact h
    · obtain ⟨⟨next, later⟩, hline, hlines⟩ := Option.bind_eq_some_iff.1 hlines
      exact ih (line_tidy h hline) hlines

/-- Every document is a table that holds each key once, at every depth. -/
theorem proper_of_parse {s : String} {doc : Entries} (h : parse s = some doc) :
    (Value.table doc).Proper := by
  obtain ⟨d, hd, rfl⟩ := Option.map_eq_some_iff.1 h
  exact (Draft.lines_tidy Tidy.nil hd).finish

end Toml

end QueryConsole
