import QueryConsole.Proofs.Reply.Values

/-!
# When databases decode

The decoder goes through the members of an object in their order. What it makes of them does not
depend on that order, and can be told from the two members that count.

## Main definitions

- `Database.Describes`: the databases that values describe

## Main results

- `Database.ofJson_eq_ok_iff`: a value decodes to the database it describes
-/

namespace QueryConsole

namespace Database

/-- The databases that values describe: an object with a name and perhaps tables, or a list of
them. -/
inductive Describes : Json → Database → Prop
  | named {members : List (String × Json)} {name : String}
      (hname : Json.lookup members "name" = some (.text name))
      (htables : Json.lookup members "tables" = none) : Describes (.object members) ⟨name, []⟩
  | filled {members : List (String × Json)} {name : String} {tables : List String}
      (hname : Json.lookup members "name" = some (.text name))
      (htables : Json.lookup members "tables" = some (.texts tables)) :
      Describes (.object members) ⟨name, tables⟩
  | single (name : String) : Describes (.list [.text name]) ⟨name, []⟩
  | pair (name : String) (tables : List String) :
      Describes (.list [.text name, .texts tables]) ⟨name, tables⟩

/-- What the decoder accepts as the value of a key. -/
def Accepts (key : String) (v : Json) : Prop :=
  (key = "name" → ∃ s, v.asText = .ok s) ∧
    (key = "tables" → ∃ tables, v.asList Json.asText = .ok tables)

/-- What decoding a member does to a draft. -/
theorem Draft.put_eq_ok_iff {d d' : Draft} {key : String} {v : Json} : d.put key v = .ok d' ↔
    (key = "name" ∧ ∃ s, v.asText = .ok s ∧ d' = { d with name := some s }) ∨
    (key = "tables" ∧ ∃ ts, v.asList Json.asText = .ok ts ∧ d' = { d with tables := some ts }) ∨
    (key ≠ "name" ∧ key ≠ "tables" ∧ d' = d) := by
  unfold Draft.put
  split
  · next hname =>
    subst hname
    simp [bind_eq_ok_iff, pure, Except.pure, @eq_comm _ d']
  · next hname =>
    split
    · next htables =>
      subst htables
      simp [bind_eq_ok_iff, pure, Except.pure, @eq_comm _ d']
    · next htables => simp [hname, htables, eq_comm]

theorem Draft.put_ok_iff (d : Draft) (key : String) (v : Json) :
    (∃ d', d.put key v = .ok d') ↔ Accepts key v := by
  simp only [Draft.put_eq_ok_iff, Accepts]
  by_cases hname : key = "name"
  · simp [hname]
  · by_cases htables : key = "tables" <;> simp [hname, htables]

theorem Draft.name_isField :
    Json.IsField Draft.put "name" Draft.name (fun v => v.asText.map some) where
  set := by
    intro d v d' h
    rcases Draft.put_eq_ok_iff.1 h with ⟨_, s, hs, rfl⟩ | ⟨hkey, _⟩ | ⟨hkey, _⟩
    · rw [hs]
      rfl
    · exact absurd hkey (by decide)
    · exact absurd rfl hkey
  keep := by
    intro d key v d' hkey h
    rcases Draft.put_eq_ok_iff.1 h with ⟨hname, _⟩ | ⟨_, ts, _, rfl⟩ | ⟨_, _, rfl⟩
    · exact absurd hname hkey
    · rfl
    · rfl

theorem Draft.tables_isField :
    Json.IsField Draft.put "tables" Draft.tables (fun v => (v.asList Json.asText).map some) where
  set := by
    intro d v d' h
    rcases Draft.put_eq_ok_iff.1 h with ⟨hkey, _⟩ | ⟨_, ts, hts, rfl⟩ | ⟨_, hkey, _⟩
    · exact absurd hkey (by decide)
    · rw [hts]
      rfl
    · exact absurd rfl hkey
  keep := by
    intro d key v d' hkey h
    rcases Draft.put_eq_ok_iff.1 h with ⟨_, s, _, rfl⟩ | ⟨htables, _⟩ | ⟨_, _, rfl⟩
    · rfl
    · exact absurd htables hkey
    · rfl

/-- The draft that an object's members are decoded to. -/
theorem Draft.foldlM_eq_ok {members : List (String × Json)} {draft : Draft}
    (distinct : (members.map Prod.fst).Nodup)
    (h : members.foldlM (fun (d : Draft) m => d.put m.1 m.2) {} = .ok draft) :
    Json.lookup members "name" = draft.name.map .text ∧
      Json.lookup members "tables" = draft.tables.map .texts := by
  have hname := Json.elim_eq_ok_iff.1 (Draft.name_isField.foldlM distinct h)
  have htables := Json.elim_eq_ok_iff.1 (Draft.tables_isField.foldlM distinct h)
  simp only [Json.asText_eq_ok_iff] at hname
  simp only [Json.asTexts_eq_ok_iff] at htables
  exact ⟨Json.rel_iff.1 hname, Json.rel_iff.1 htables⟩

/-- What an object describes, when its tables may be missing. -/
theorem describes_object_iff {members : List (String × Json)} {d : Database} :
    Describes (.object members) d ↔ Json.lookup members "name" = some (.text d.name) ∧
      ∃ tables : Option (List String), Json.lookup members "tables" = tables.map .texts ∧
        d.tables = tables.getD [] := by
  constructor
  · intro h
    cases h with
    | named hname htables => exact ⟨hname, none, htables, rfl⟩
    | filled hname htables => exact ⟨hname, some _, htables, rfl⟩
  · obtain ⟨name, ts⟩ := d
    rintro ⟨hname, tables, htables, rfl⟩
    cases tables with
    | none => exact .named hname htables
    | some tables => exact .filled hname htables

/-- The decoder accepts the members of an object that describes a database. -/
theorem accepts_of_describes {members : List (String × Json)} {d : Database}
    (distinct : (members.map Prod.fst).Nodup) (h : Describes (.object members) d) :
    ∀ m ∈ members, Accepts m.1 m.2 := by
  obtain ⟨hname, tables, htables, _⟩ := describes_object_iff.1 h
  rw [← Json.forall_lookup_iff distinct]
  intro key v hlookup
  constructor
  · rintro rfl
    cases hname.symm.trans hlookup
    exact ⟨d.name, rfl⟩
  · rintro rfl
    obtain ⟨ts, _, rfl⟩ := Option.map_eq_some_iff.1 (htables.symm.trans hlookup)
    exact ⟨ts, Json.asTexts_eq_ok_iff.2 rfl⟩

/-- An object decodes to the database it describes. -/
theorem ofJson_object_eq_ok_iff {members : List (String × Json)} {d : Database}
    (distinct : (members.map Prod.fst).Nodup) :
    ofJson (.object members) = .ok d ↔ Describes (.object members) d := by
  simp only [ofJson, bind_eq_ok_iff]
  constructor
  · rintro ⟨draft, hdraft, h⟩
    obtain ⟨hname, htables⟩ := Draft.foldlM_eq_ok distinct hdraft
    cases hdraftName : draft.name with
    | none =>
      rw [hdraftName] at h
      cases h
    | some name =>
      rw [hdraftName] at h hname
      cases h
      exact describes_object_iff.2 ⟨hname, draft.tables, htables, rfl⟩
  · intro h
    have haccepts := accepts_of_describes distinct h
    obtain ⟨draft, hdraft⟩ := (Json.foldlM_ok_iff Draft.put_ok_iff members {}).2 haccepts
    obtain ⟨hname', htables'⟩ := Draft.foldlM_eq_ok distinct hdraft
    obtain ⟨hname, tables, htables, hd⟩ := describes_object_iff.1 h
    have hdraftName : draft.name = some d.name :=
      Option.map_injective (fun _ _ => Json.text.inj) (hname'.symm.trans hname)
    have hdraftTables : draft.tables = tables :=
      Option.map_injective Json.texts_injective (htables'.symm.trans htables)
    refine ⟨draft, hdraft, ?_⟩
    rw [hdraftName, hdraftTables, ← hd]
    rfl

/-- A list decodes to the database it describes. -/
theorem ofJson_list_eq_ok_iff {items : List Json} {d : Database} :
    ofJson (.list items) = .ok d ↔ Describes (.list items) d := by
  constructor
  · intro h
    match items with
    | [] => cases h
    | [name] =>
      obtain ⟨s, hs, h⟩ := bind_eq_ok_iff.1 h
      cases h
      rw [Json.asText_eq_ok_iff.1 hs]
      exact .single s
    | name :: tables :: more =>
      obtain ⟨s, hs, h⟩ := bind_eq_ok_iff.1 h
      obtain ⟨ts, hts, h⟩ := bind_eq_ok_iff.1 h
      cases more with
      | nil =>
        cases h
        rw [Json.asText_eq_ok_iff.1 hs, Json.asTexts_eq_ok_iff.1 hts]
        exact .pair s ts
      | cons v more => cases h
  · intro h
    cases h with
    | single name => rfl
    | pair name tables =>
      have htables := Json.asTexts_eq_ok_iff.2 (Eq.refl (Json.texts tables))
      exact bind_eq_ok_iff.2 ⟨name, rfl, bind_eq_ok_iff.2 ⟨tables, htables, rfl⟩⟩

/-- A value decodes to the database it describes. -/
theorem ofJson_eq_ok_iff {v : Json} {d : Database} (proper : v.Proper) :
    ofJson v = .ok d ↔ Describes v d := by
  cases v with
  | object members => exact ofJson_object_eq_ok_iff proper.distinct
  | list items => exact ofJson_list_eq_ok_iff
  | _ =>
    constructor
    · intro h
      cases h
    · intro h
      cases h

/-- A list of values decodes to the databases they describe. -/
theorem asList_eq_ok_iff {v : Json} {ds : List Database} (proper : v.Proper) :
    v.asList ofJson = .ok ds ↔ ∃ items, v = .list items ∧ List.Forall₂ Describes items ds := by
  rw [Json.asList_eq_ok_iff]
  constructor
  all_goals
    rintro ⟨items, rfl, h⟩
    refine ⟨items, rfl, List.forall₂_iff_zip.2 ⟨h.length_eq, fun hmem => ?_⟩⟩
    have hproper := proper.of_list _ (List.of_mem_zip hmem).1
  · exact (ofJson_eq_ok_iff hproper).1 (List.forall₂_zip h hmem)
  · exact (ofJson_eq_ok_iff hproper).2 (List.forall₂_zip h hmem)

end Database

end QueryConsole
