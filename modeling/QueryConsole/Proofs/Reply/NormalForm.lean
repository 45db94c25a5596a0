import QueryConsole.Proofs.Reply.Fields
import QueryConsole.Reply.Basic

/-!
# The written form of a response

A response can come in many forms: its fields in any order, nulls in place of absent ones, unknown
members among them, a list in place of an object. Written back it has one form only, and decoding
that gives the same response again. The point that needs care is the rows. A row is written as the
value it was read from, so the value that is decoded again is the same one, and with it the kind of
row; a scalar row that holds a text would be read back as a text row, but no decoder makes one.

## Main definitions

- `Response.Legible`: the rows are ones that a decoder makes
- `Response.written`: the members of the written form

## Main results

- `Response.Legible.of_ofJson`: decoded responses are legible
- `Response.ofJson_toJson`: a legible response is what its written form decodes to
- `wire_form_normal`: writing a decoded response leaves nothing out and adds nothing
-/

namespace QueryConsole

/-! ## Rows and databases -/

namespace Row

/-- A row is written as the value it was read from. -/
theorem toJson_ofJson (v : Json) : (ofJson v).toJson = v := by
  cases v <;> rfl

/-- The written row is read as the same kind of row. -/
def Legible (row : Row) : Prop := ofJson row.toJson = row

theorem legible_ofJson (v : Json) : (ofJson v).Legible := by
  show ofJson (ofJson v).toJson = ofJson v
  rw [toJson_ofJson]

end Row

/-- A written database is read as that database. -/
theorem Database.ofJson_toJson (d : Database) : Database.ofJson d.toJson = .ok d := by
  apply (ofJson_object_eq_ok_iff _).2
  · exact .filled rfl rfl
  · show (["name", "tables"] : List String).Nodup
    decide

namespace Response

variable {r r' : Response}

/-- Every row is one that a decoder makes. -/
structure Legible (r : Response) : Prop where
  result : ∀ rows, r.result = some rows → ∀ row ∈ rows, row.Legible
  results : ∀ rows, r.results = some rows → ∀ row ∈ rows, row.Legible

/-! ## Decoded responses are legible -/

/-- Decoded rows are legible, whatever the value is that they are decoded from. -/
theorem legible_of_rows {v : Json} {x : Option (List Row)} (h : v.asOptional rows = .ok x) :
    ∀ rs, x = some rs → ∀ row ∈ rs, row.Legible := by
  rintro rs rfl row hrow
  have hrel := Json.elim_asOptional_eq_ok_iff.1 (show (some v).elim _ _ = _ from h)
  generalize Json.given (some v) = given at hrel
  cases hrel with
  | some hrows =>
    obtain ⟨items, _, rfl⟩ := (Json.asList_total Row.ofJson _ rs).1 hrows
    obtain ⟨item, _, rfl⟩ := List.mem_map.1 hrow
    exact Row.legible_ofJson item

/-- Decoding one more member keeps a response legible. -/
theorem Legible.put (h : r.Legible) {key : String} {v : Json} (hput : r.put key v = .ok r') :
    r'.Legible := by
  rcases put_eq_ok_iff.1 hput with ⟨_, x, _, rfl⟩ | ⟨_, x, hx, rfl⟩ | ⟨_, x, hx, rfl⟩ |
    ⟨_, x, _, rfl⟩ | ⟨_, x, _, rfl⟩ | ⟨_, x, _, rfl⟩ | ⟨_, rfl⟩
  · exact ⟨h.result, h.results⟩
  · exact ⟨legible_of_rows hx, h.results⟩
  · exact ⟨h.result, legible_of_rows hx⟩
  · exact ⟨h.result, h.results⟩
  · exact ⟨h.result, h.results⟩
  · exact ⟨h.result, h.results⟩
  · exact h

theorem Legible.foldlM (h : r.Legible) {members : List (String × Json)}
    (hfold : members.foldlM (fun (r : Response) m => r.put m.1 m.2) r = .ok r') : r'.Legible := by
  induction members generalizing r with
  | nil =>
    cases hfold
    exact h
  | cons m rest ih =>
    rw [List.foldlM_cons] at hfold
    obtain ⟨next, hnext, hrest⟩ := bind_eq_ok_iff.1 hfold
    exact ih (h.put hnext) hrest

theorem Legible.of_ofMembers {members : List (String × Json)} (h : ofMembers members = .ok r) :
    r.Legible := by
  have hempty : ({} : Response).Legible := ⟨by simp, by simp⟩
  exact hempty.foldlM h

/-- Whatever a response is decoded from, it is legible. -/
theorem Legible.of_ofJson {v : Json} (h : ofJson v = .ok r) : r.Legible := by
  cases v with
  | object members => exact .of_ofMembers h
  | list items =>
    obtain ⟨decoded, hdecoded, hlength⟩ := bind_eq_ok_iff.1 h
    split at hlength
    · cases hlength
      exact .of_ofMembers hdecoded
    · cases hlength
  | _ => cases h

/-! ## The members of the written form -/

/-- The members of the written form. -/
def written (r : Response) : List (String × Json) :=
  field "status" (r.status.map .text) ++
    field "result" (r.result.map fun rows => .list (rows.map Row.toJson)) ++
    field "results" (r.results.map fun rows => .list (rows.map Row.toJson)) ++
    field "databases" (r.databases.map fun ds => .list (ds.map Database.toJson)) ++
    field "message" (r.message.map .text) ++
    field "error" (r.error.map .text)

theorem toJson_eq (r : Response) : r.toJson = .object r.written := rfl

/-- A field is written under its name, if at all. -/
theorem keys_field_sublist (name : String) (value : Option Json) :
    ((field name value).map Prod.fst).Sublist [name] := by
  cases value with
  | none => exact List.nil_sublist _
  | some v => exact List.Sublist.refl _

/-- The members are in the order of declaration, each field once at most. -/
theorem keys_written_sublist (r : Response) :
    (r.written.map Prod.fst).Sublist
      ["status", "result", "results", "databases", "message", "error"] := by
  have hkeys := fun name value => keys_field_sublist name value
  simp only [written, List.map_append]
  exact (((((hkeys _ _).append (hkeys _ _)).append (hkeys _ _)).append (hkeys _ _)).append
    (hkeys _ _)).append (hkeys _ _)

/-- A field that is written is not null, if no value of its kind is. -/
theorem ne_null_of_mem_field {α : Type} {name : String} {x : Option α} {f : α → Json}
    {m : String × Json} (h : m ∈ field name (x.map f)) (hf : ∀ a, f a ≠ .null) :
    m.2 ≠ .null := by
  cases x with
  | none => cases h
  | some a =>
    obtain rfl := List.mem_singleton.1 h
    exact hf a

/-- No member is null. -/
theorem ne_null_of_mem_written {m : String × Json} (h : m ∈ r.written) : m.2 ≠ .null := by
  simp only [written, List.mem_append] at h
  rcases h with ((((h | h) | h) | h) | h) | h
  all_goals
    apply ne_null_of_mem_field h
    intro a hnull
    cases hnull

/-! ## Decoding the written form -/

theorem asOptional_rows {rs : List Row} (h : ∀ row ∈ rs, row.Legible) :
    (Json.list (rs.map Row.toJson)).asOptional rows = .ok (some rs) := by
  have hrows : rows (.list (rs.map Row.toJson)) = .ok rs := by
    refine (Json.asList_total Row.ofJson _ rs).2 ⟨_, rfl, ?_⟩
    rw [List.map_map]
    exact ((List.map_congr_left h).trans (List.map_id rs)).symm
  exact map_eq_ok_iff.2 ⟨rs, hrows, rfl⟩

theorem asOptional_databases (ds : List Database) :
    (Json.list (ds.map Database.toJson)).asOptional (Json.asList Database.ofJson) =
      .ok (some ds) := by
  have hdatabases : (Json.list (ds.map Database.toJson)).asList Database.ofJson = .ok ds := by
    refine Json.asList_eq_ok_iff.2 ⟨_, rfl, List.forall₂_map_left_iff.2 ?_⟩
    exact List.forall₂_same.2 fun d _ => d.ofJson_toJson
  exact map_eq_ok_iff.2 ⟨ds, hdatabases, rfl⟩

/-- Decoding a written field sets it where it is present, and leaves it absent otherwise. -/
theorem foldlM_field {α : Type} (set : Option α → Response) {name : String} {x : Option α}
    {f : α → Json} (hset : ∀ a, x = some a → (set none).put name (f a) = .ok (set (some a))) :
    (field name (x.map f)).foldlM (fun (r : Response) m => r.put m.1 m.2) (set none) =
      .ok (set x) := by
  cases x with
  | none => rfl
  | some a =>
    show [(name, f a)].foldlM (fun (r : Response) m => r.put m.1 m.2) (set none) = _
    rw [List.foldlM_cons]
    exact bind_eq_ok_iff.2 ⟨_, hset a rfl, rfl⟩

/-- The members are decoded one after another, each to the field that was written. -/
theorem ofMembers_written (h : r.Legible) : ofMembers r.written = .ok r := by
  obtain ⟨status, result, results, databases, message, error⟩ := r
  have hresult : ∀ rs, result = some rs →
      put ⟨status, none, none, none, none, none⟩ "result" (.list (rs.map Row.toJson)) =
        .ok ⟨status, some rs, none, none, none, none⟩ := by
    intro rs hrs
    exact put_eq_ok_iff.2 (.inr (.inl ⟨rfl, _, asOptional_rows (h.result rs hrs), rfl⟩))
  have hresults : ∀ rs, results = some rs →
      put ⟨status, result, none, none, none, none⟩ "results" (.list (rs.map Row.toJson)) =
        .ok ⟨status, result, some rs, none, none, none⟩ := by
    intro rs hrs
    exact put_eq_ok_iff.2 (.inr (.inr (.inl ⟨rfl, _, asOptional_rows (h.results rs hrs), rfl⟩)))
  have hdatabases : ∀ ds, databases = some ds →
      put ⟨status, result, results, none, none, none⟩ "databases"
          (.list (ds.map Database.toJson)) =
        .ok ⟨status, result, results, some ds, none, none⟩ := by
    intro ds _
    exact put_eq_ok_iff.2 (.inr (.inr (.inr (.inl ⟨rfl, _, asOptional_databases ds, rfl⟩))))
  simp only [ofMembers, written, List.foldlM_append]
  -- from the last field back to the first
  refine bind_eq_ok_iff.2 ⟨⟨status, result, results, databases, message, none⟩, ?_,
    foldlM_field (fun x => ⟨status, result, results, databases, message, x⟩) fun s _ => rfl⟩
  refine bind_eq_ok_iff.2 ⟨⟨status, result, results, databases, none, none⟩, ?_,
    foldlM_field (fun x => ⟨status, result, results, databases, x, none⟩) fun s _ => rfl⟩
  refine bind_eq_ok_iff.2 ⟨⟨status, result, results, none, none, none⟩, ?_,
    foldlM_field (fun x => ⟨status, result, results, x, none, none⟩) hdatabases⟩
  refine bind_eq_ok_iff.2 ⟨⟨status, result, none, none, none, none⟩, ?_,
    foldlM_field (fun x => ⟨status, result, x, none, none, none⟩) hresults⟩
  exact bind_eq_ok_iff.2 ⟨⟨status, none, none, none, none, none⟩,
    foldlM_field (fun x => ⟨x, none, none, none, none, none⟩) fun s _ => rfl,
    foldlM_field (fun x => ⟨status, x, none, none, none, none⟩) hresult⟩

/-- A legible response is what its written form decodes to. -/
theorem ofJson_toJson (h : r.Legible) : ofJson r.toJson = .ok r :=
  ofMembers_written h

end Response

/-- A decoded response, from whatever value, is what its written form decodes to. The written form
is an object without nulls that has its fields in the order of declaration, and it is sorted into
the same reply as the value. -/
theorem wire_form_normal {v : Json} {r : Response} (h : Response.ofJson v = .ok r) :
    Response.ofJson r.toJson = .ok r ∧
    (∃ members, r.toJson = .object members ∧
      (members.map Prod.fst).Sublist
        ["status", "result", "results", "databases", "message", "error"] ∧
      ∀ m ∈ members, m.2 ≠ .null) ∧
    Reply.discriminate r.toJson = Reply.discriminate v := by
  have hagain : Response.ofJson r.toJson = .ok r :=
    Response.ofJson_toJson (Response.Legible.of_ofJson h)
  refine ⟨hagain, ⟨r.written, r.toJson_eq, r.keys_written_sublist, ?_⟩, ?_⟩
  · intro m hm
    exact Response.ne_null_of_mem_written hm
  · rw [Reply.discriminate, Reply.discriminate, hagain, h]

/-- A list in place of an object, with nulls, rows of every kind and databases in both forms. -/
theorem wire_form_normal_list :
    let v : Json := .list [.text "success", .null,
      .list [.object [("id", .null)], .text "x", .null, .list [.text "x"]],
      .list [.object [("size", .null), ("name", .text "shop")], .list [.text "hr", .list []]]]
    let r : Response := { status := some "success"
                          results := some [.record [("id", .null)], .text "x", .scalar .null,
                            .scalar (.list [.text "x"])]
                          databases := some [⟨"shop", []⟩, ⟨"hr", []⟩] }
    Response.ofJson v = .ok r ∧ Response.ofJson r.toJson = .ok r ∧
      Reply.discriminate r.toJson = .listing [⟨"shop", []⟩, ⟨"hr", []⟩] := by
  intro v r
  have hread : Response.ofJson v = .ok r := rfl
  obtain ⟨hagain, _, hreply⟩ := wire_form_normal hread
  exact ⟨hread, hagain, hreply.trans rfl⟩

end QueryConsole
