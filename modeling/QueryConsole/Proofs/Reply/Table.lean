import Mathlib.Logic.Relator
import QueryConsole.Proofs.Json.Readers
import QueryConsole.Proofs.Reply.Fields
import QueryConsole.Reply.Basic

/-!
# The table of replies

What a response is sorted into, as a table: each row says which values it is about and what they
stand for. The rows leave no value out and no two of them disagree, so the table determines the
reply to every value. It mentions the fields of a response only, never the order they come in.

## Main definitions

- `Fields.Means`: what the fields of a response stand for
- `Reply.Table`: what any value stands for

## Main results

- `Reply.discriminate_eq_iff`: a value is sorted into what the table says
- `Reply.discriminate_perm`: the order of an object's members does not matter
- `discrimination_by_table`: both, and that every decoded value is one they are about
-/

namespace QueryConsole

namespace Fields

/-- The daemon reports a failure: it gives an error, or its status is one. -/
def Failed (f : Fields) : Prop :=
  (∃ s, f.error = some (.text s)) ∨ f.status = some (.text "error")

/-- What the fields of a response stand for. -/
inductive Means (f : Fields) : Reply → Prop
  | failure (failed : f.Failed) :
      Means f (.failure ((f.error.bind Json.text? <|> f.message.bind Json.text?).getD
        Reply.unexplained))
  | listing {entries : List Json} {ds : List Database} (sound : ¬ f.Failed)
      (hdatabases : f.databases = some (.list entries))
      (described : List.Forall₂ Database.Describes entries ds) : Means f (.listing ds)
  | results {items : List Json} (sound : ¬ f.Failed) (hdatabases : f.databases = none)
      (hresults : f.results = some (.list items)) : Means f (.tabular (items.map Row.ofJson))
  | result {items : List Json} (sound : ¬ f.Failed) (hdatabases : f.databases = none)
      (hresults : f.results = none) (hresult : f.result = some (.list items)) :
      Means f (.tabular (items.map Row.ofJson))
  | success (sound : ¬ f.Failed) (hdatabases : f.databases = none) (hresults : f.results = none)
      (hresult : f.result = none) (hstatus : f.status = some (.text "success")) :
      Means f (.tabular [])
  | other (sound : ¬ f.Failed) (hdatabases : f.databases = none) (hresults : f.results = none)
      (hresult : f.result = none) (hstatus : f.status ≠ some (.text "success")) :
      Means f (.failure ((f.message.bind Json.text?).getD Reply.unrecognised))

end Fields

namespace Reply

/-- What a value stands for. A list of more than six values is no response. -/
inductive Table : Json → Reply → Prop
  | object {members : List (String × Json)} {reply : Reply}
      (decodable : (Fields.ofObject members).Decodable)
      (means : (Fields.ofObject members).Means reply) : Table (.object members) reply
  | list {items : List Json} {reply : Reply} (short : items.length ≤ 6)
      (decodable : (Fields.ofList items).Decodable) (means : (Fields.ofList items).Means reply) :
      Table (.list items) reply
  | otherObject {members : List (String × Json)}
      (undecodable : ¬ (Fields.ofObject members).Decodable) :
      Table (.object members) (.failure (((Fields.ofObject members).message.bind Json.text? <|>
        (Fields.ofObject members).error.bind Json.text?).getD unrecognised))
  | otherList {items : List Json}
      (undecodable : ¬ (items.length ≤ 6 ∧ (Fields.ofList items).Decodable)) :
      Table (.list items) (.failure unrecognised)
  | other {v : Json} (hobject : ∀ members, v ≠ .object members) (hlist : ∀ items, v ≠ .list items) :
      Table v (.failure unrecognised)

end Reply

/-! ## No value is left out -/

/-- Decodable fields stand for something. -/
theorem Fields.Decodable.means {f : Fields} (h : f.Decodable) : ∃ reply, f.Means reply := by
  by_cases hfailed : f.Failed
  · exact ⟨_, .failure hfailed⟩
  · cases hdatabases : f.databases with
    | some v =>
      obtain ⟨entries, rfl, hentries⟩ := h.databases v hdatabases
      obtain ⟨ds, hds⟩ := exists_forall₂.2 hentries
      exact ⟨_, .listing hfailed hdatabases hds⟩
    | none =>
      cases hresults : f.results with
      | some v =>
        obtain ⟨items, rfl⟩ := h.results v hresults
        exact ⟨_, .results hfailed hdatabases hresults⟩
      | none =>
        cases hresult : f.result with
        | some v =>
          obtain ⟨items, rfl⟩ := h.result v hresult
          exact ⟨_, .result hfailed hdatabases hresults hresult⟩
        | none =>
          by_cases hstatus : f.status = some (.text "success")
          · exact ⟨_, .success hfailed hdatabases hresults hresult hstatus⟩
          · exact ⟨_, .other hfailed hdatabases hresults hresult hstatus⟩

/-- Every value stands for something. -/
theorem Reply.table_total (v : Json) : ∃ reply, Table v reply := by
  cases v with
  | object members =>
    by_cases h : (Fields.ofObject members).Decodable
    · obtain ⟨reply, hreply⟩ := h.means
      exact ⟨reply, .object h hreply⟩
    · exact ⟨_, .otherObject h⟩
  | list items =>
    by_cases h : items.length ≤ 6 ∧ (Fields.ofList items).Decodable
    · obtain ⟨reply, hreply⟩ := h.2.means
      exact ⟨reply, .list h.1 h.2 hreply⟩
    · exact ⟨_, .otherList h⟩
  | _ => exact ⟨_, .other (fun _ h => nomatch h) (fun _ h => nomatch h)⟩

/-! ## The rows agree with the decoder -/

namespace Database

/-- No value describes two databases. -/
theorem Describes.unique : Relator.RightUnique Describes := by
  intro v d d' h h'
  cases h with
  | named hname htables =>
    cases h' with
    | named hname' htables' =>
      cases hname.symm.trans hname'
      rfl
    | filled hname' htables' => cases htables.symm.trans htables'
  | filled hname htables =>
    cases h' with
    | named hname' htables' => cases htables.symm.trans htables'
    | filled hname' htables' =>
      cases hname.symm.trans hname'
      rw [Json.texts_injective (Option.some.inj (htables.symm.trans htables'))]
  | single name =>
    cases h' with
    | single => rfl
  | pair name tables =>
    generalize hv : Json.list [.text name, .texts tables] = v at h'
    cases h' with
    | named => cases hv
    | filled => cases hv
    | single => cases hv
    | pair name' tables' =>
      injection hv with hv
      injection hv with hname htail
      injection htail with htables
      rw [Json.text.inj hname, Json.texts_injective htables]

end Database

theorem Json.bind_text? (x : Option String) : (x.map Json.text).bind text? = x := by
  cases x <;> rfl

theorem Json.given_bind_text? (field : Option Json) :
    (given field).bind text? = field.bind text? := by
  unfold given
  split <;> rfl

namespace Fields

variable {f : Fields} {r : Response}

theorem none_of_rel {α : Type} {R : Json → α → Prop} {field : Option Json} {x : Option α}
    (h : Option.Rel R field x) (hfield : field = none) : x = none := by
  subst hfield
  cases h
  rfl

theorem rows_of_rel {field : Option Json} {x : Option (List Row)} {items : List Json}
    (h : Option.Rel (fun v rows => ∃ items, v = .list items ∧ rows = items.map Row.ofJson) field x)
    (hfield : field = some (.list items)) : x = some (items.map Row.ofJson) := by
  subst hfield
  cases h with
  | some hx =>
    obtain ⟨items', hitems, rfl⟩ := hx
    rw [Json.list.inj hitems]

theorem Reads.status_iff (h : f.Reads r) {s : String} :
    f.status = some (.text s) ↔ r.status = some s := by
  rw [Json.rel_iff.1 h.status]
  cases r.status <;> simp

theorem Reads.failed_iff (h : f.Reads r) : f.Failed ↔ r.status = some "error" ∨ r.error.isSome := by
  rw [Failed, h.status_iff, Json.rel_iff.1 h.error, or_comm]
  cases r.error <;> simp

/-- The response that fields are decoded to has the kind that they stand for. -/
theorem Reads.ofResponse_eq (h : f.Reads r) {reply : Reply} (means : f.Means reply) :
    Reply.ofResponse r = reply := by
  have hmessage := Json.rel_iff.1 h.message
  have herror := Json.rel_iff.1 h.error
  unfold Reply.ofResponse
  cases means with
  | failure failed =>
    rw [if_pos (h.failed_iff.1 failed), hmessage, herror, Json.bind_text?, Json.bind_text?]
  | listing sound hdatabases described =>
    rw [if_neg (mt h.failed_iff.2 sound)]
    have hrel := h.databases
    rw [hdatabases] at hrel
    generalize r.databases = databases at hrel ⊢
    cases hrel with
    | some hds =>
      obtain ⟨entries', hentries, hds⟩ := hds
      cases hentries
      rw [List.right_unique_forall₂' Database.Describes.unique described hds]
  | results sound hdatabases hresults =>
    rw [if_neg (mt h.failed_iff.2 sound), none_of_rel h.databases hdatabases,
      rows_of_rel h.results hresults]
    rfl
  | result sound hdatabases hresults hresult =>
    rw [if_neg (mt h.failed_iff.2 sound), none_of_rel h.databases hdatabases,
      none_of_rel h.results hresults, rows_of_rel h.result hresult]
    rfl
  | success sound hdatabases hresults hresult hsuccess =>
    rw [if_neg (mt h.failed_iff.2 sound), none_of_rel h.databases hdatabases,
      none_of_rel h.results hresults, none_of_rel h.result hresult]
    exact if_pos (h.status_iff.1 hsuccess)
  | other sound hdatabases hresults hresult hsuccess =>
    rw [if_neg (mt h.failed_iff.2 sound), none_of_rel h.databases hdatabases,
      none_of_rel h.results hresults, none_of_rel h.result hresult, hmessage, Json.bind_text?]
    exact if_neg (mt h.status_iff.2 hsuccess)

end Fields

/-! ## The table -/

namespace Reply

/-- What the table says is what a value is sorted into. -/
theorem Table.discriminate_eq {v : Json} {reply : Reply} (proper : v.Proper)
    (h : Table v reply) : discriminate v = reply := by
  unfold discriminate
  cases h with
  | object decodable means =>
    obtain ⟨r, hr⟩ := (Response.ofMembers_ok_iff proper).2 decodable
    rw [Response.ofJson, hr]
    exact (Response.reads_of_ofMembers proper hr).ofResponse_eq means
  | list short decodable means =>
    have hproper := Response.zip_proper proper
    rw [← Response.ofObject_zip] at decodable means
    obtain ⟨r, hr⟩ := (Response.ofMembers_ok_iff hproper).2 decodable
    have hlist : Response.ofJson (.list _) = .ok r := bind_eq_ok_iff.2 ⟨r, hr, if_pos short⟩
    rw [hlist]
    exact (Response.reads_of_ofMembers hproper hr).ofResponse_eq means
  | @otherObject members undecodable =>
    rw [← Response.ofMembers_ok_iff proper] at undecodable
    cases hr : Response.ofJson (.object members) with
    | ok r => exact absurd ⟨r, hr⟩ undecodable
    | error e =>
      show Reply.failure _ = _
      simp only [Fields.ofObject, Json.given_bind_text?]
      rfl
  | @otherList items undecodable =>
    cases hr : Response.ofJson (.list items) with
    | ok r =>
      obtain ⟨r', hr', hlength⟩ := bind_eq_ok_iff.1 hr
      have hshort : items.length ≤ Response.fieldNames.length := by
        by_contra hlong
        rw [if_neg hlong] at hlength
        cases hlength
      have hdecodable := (Response.ofMembers_ok_iff (Response.zip_proper proper)).1 ⟨r', hr'⟩
      rw [Response.ofObject_zip] at hdecodable
      exact absurd ⟨hshort, hdecodable⟩ undecodable
    | error e => rfl
  | other hobject hlist =>
    cases v with
    | object members => exact absurd rfl (hobject members)
    | list items => exact absurd rfl (hlist items)
    | _ => rfl

/-- A value is sorted into what the table says, and into nothing else. -/
theorem discriminate_eq_iff {v : Json} (proper : v.Proper) {reply : Reply} :
    discriminate v = reply ↔ Table v reply := by
  constructor
  · rintro rfl
    obtain ⟨reply, hreply⟩ := table_total v
    rw [hreply.discriminate_eq proper]
    exact hreply
  · exact Table.discriminate_eq proper

/-- The order of an object's members does not matter. -/
theorem discriminate_perm {members members' : List (String × Json)}
    (proper : (Json.object members).Proper) (hperm : members.Perm members') :
    discriminate (.object members') = discriminate (.object members) := by
  have hdistinct := (hperm.map Prod.fst).nodup_iff.1 proper.distinct
  have heach : ∀ m ∈ members', m.2.Proper := fun m hm => proper.of_object m (hperm.mem_iff.2 hm)
  have hfields : Fields.ofObject members = Fields.ofObject members' := by
    simp only [Fields.ofObject, Json.lookup_perm proper.distinct hperm]
  rw [discriminate_eq_iff (.object hdistinct heach)]
  have htable := (discriminate_eq_iff proper).1 rfl
  generalize discriminate (.object members) = reply at htable ⊢
  cases htable with
  | object decodable means =>
    rw [hfields] at decodable means
    exact .object decodable means
  | otherObject undecodable =>
    rw [hfields] at undecodable ⊢
    exact .otherObject undecodable
  | other hobject hlist => exact absurd rfl (hobject members)

end Reply

/-- Every value that holds each key of an object once is sorted into what the table says, whatever
the order of its members. Every value that comes from a text is such a value. -/
theorem discrimination_by_table :
    (∀ v : Json, v.Proper → ∀ reply, Reply.discriminate v = reply ↔ Reply.Table v reply) ∧
    (∀ members members' : List (String × Json), (Json.object members).Proper →
      members.Perm members' →
      Reply.discriminate (.object members') = Reply.discriminate (.object members)) ∧
    ∀ bytes v, Json.decode bytes = .ok v → v.Proper := by
  refine ⟨?_, ?_, ?_⟩
  · intro v proper reply
    exact Reply.discriminate_eq_iff proper
  · intro members members' proper hperm
    exact Reply.discriminate_perm proper hperm
  · intro bytes v h
    exact Json.proper_of_decode h

/-- A listing is there and is null, so the rows count, whether they come first or last. -/
theorem discrimination_by_table_rows :
    Reply.Table (.object [("databases", .null), ("results", .list [.text "users"])])
      (.tabular [.text "users"]) ∧
    Reply.discriminate (.object [("results", .list [.text "users"]), ("databases", .null)]) =
      .tabular [.text "users"] ∧
    (Json.object []).Proper := by
  have hproper :
      (Json.object [("databases", .null), ("results", .list [.text "users"])]).Proper := by
    refine .object (by decide) ?_
    intro m hm
    obtain rfl | rfl : m = _ ∨ m = _ := by simpa using hm
    · exact .null
    · refine .list ?_
      intro v hv
      obtain rfl := List.mem_singleton.1 hv
      exact .text _
  obtain ⟨htable, hperm, hdecode⟩ := discrimination_by_table
  exact ⟨(htable _ hproper _).1 rfl, (hperm _ _ hproper (.swap _ _ _)).trans rfl,
    hdecode [0x7B, 0x7D] _ rfl⟩

end QueryConsole
