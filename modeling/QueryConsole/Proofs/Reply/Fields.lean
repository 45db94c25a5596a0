import QueryConsole.Proofs.Reply.Database

/-!
# When responses decode

The decoder stops at the first mismatch in the order of the document. Whether it stops does not
depend on that order: a response decodes exactly when each field it gives has the right shape.

## Main definitions

- `Fields`: the values that a response gives its six fields
- `Fields.Decodable`: every field that is given has the right shape
- `Fields.Reads`: what the fields are decoded to

## Main results

- `Response.ofMembers_ok_iff`: members decode exactly when their fields are decodable
- `Response.reads_of_ofMembers`: members decode to what their fields are read as
- `Response.ofObject_zip`: the fields of a list are those of an object
-/

namespace QueryConsole

/-- The values that a response gives its six fields. -/
structure Fields where
  status : Option Json
  result : Option Json
  results : Option Json
  databases : Option Json
  message : Option Json
  error : Option Json

namespace Fields

/-- The fields of an object. -/
def ofObject (members : List (String × Json)) : Fields where
  status := Json.given (Json.lookup members "status")
  result := Json.given (Json.lookup members "result")
  results := Json.given (Json.lookup members "results")
  databases := Json.given (Json.lookup members "databases")
  message := Json.given (Json.lookup members "message")
  error := Json.given (Json.lookup members "error")

/-- The fields of a list, which holds their values in the order of declaration. -/
def ofList (items : List Json) : Fields where
  status := Json.given items[0]?
  result := Json.given items[1]?
  results := Json.given items[2]?
  databases := Json.given items[3]?
  message := Json.given items[4]?
  error := Json.given items[5]?

/-- A text. -/
def IsText (v : Json) : Prop := ∃ s, v = .text s

/-- A list of any values. -/
def IsList (v : Json) : Prop := ∃ items, v = .list items

/-- A list of values that each describe a database. -/
def IsListing (v : Json) : Prop :=
  ∃ items, v = .list items ∧ ∀ entry ∈ items, ∃ d, Database.Describes entry d

/-- Every field that is given has the right shape. -/
structure Decodable (f : Fields) : Prop where
  status : ∀ v, f.status = some v → IsText v
  result : ∀ v, f.result = some v → IsList v
  results : ∀ v, f.results = some v → IsList v
  databases : ∀ v, f.databases = some v → IsListing v
  message : ∀ v, f.message = some v → IsText v
  error : ∀ v, f.error = some v → IsText v

/-- What the fields are decoded to. -/
structure Reads (f : Fields) (r : Response) : Prop where
  status : Option.Rel (fun v s => v = .text s) f.status r.status
  result : Option.Rel (fun v rows => ∃ items, v = .list items ∧ rows = items.map Row.ofJson)
    f.result r.result
  results : Option.Rel (fun v rows => ∃ items, v = .list items ∧ rows = items.map Row.ofJson)
    f.results r.results
  databases : Option.Rel (fun v ds => ∃ items, v = .list items ∧
    List.Forall₂ Database.Describes items ds) f.databases r.databases
  message : Option.Rel (fun v s => v = .text s) f.message r.message
  error : Option.Rel (fun v s => v = .text s) f.error r.error

end Fields

namespace Response

/-- Decodes the rows of a result. -/
def rows : Json → Except Mismatch (List Row) := Json.asList fun row => .ok (Row.ofJson row)

theorem exists_asText_iff {v : Json} : (∃ s, v.asText = .ok s) ↔ Fields.IsText v := by
  simp only [Json.asText_eq_ok_iff, Fields.IsText]

theorem exists_rows_iff {v : Json} : (∃ rs, rows v = .ok rs) ↔ Fields.IsList v := by
  simp [rows, Json.asList_total, Fields.IsList]

theorem exists_databases_iff {v : Json} (proper : v.Proper) :
    (∃ ds, v.asList Database.ofJson = .ok ds) ↔ Fields.IsListing v := by
  simp only [Database.asList_eq_ok_iff proper, Fields.IsListing, ← exists_forall₂]
  constructor
  · rintro ⟨ds, items, rfl, h⟩
    exact ⟨items, rfl, ds, h⟩
  · rintro ⟨items, rfl, ds, h⟩
    exact ⟨ds, items, rfl, h⟩

/-- What the decoder accepts as the value of a key, unless it is null. -/
def Accepts (key : String) (v : Json) : Prop :=
  v ≠ .null →
    (key = "status" ∨ key = "message" ∨ key = "error" → ∃ s, v.asText = .ok s) ∧
    (key = "result" ∨ key = "results" → ∃ rs, rows v = .ok rs) ∧
    (key = "databases" → ∃ ds, v.asList Database.ofJson = .ok ds)

/-- What decoding a member does to a response. -/
theorem put_eq_ok_iff {r r' : Response} {key : String} {v : Json} : r.put key v = .ok r' ↔
    (key = "status" ∧ ∃ x, v.asOptional Json.asText = .ok x ∧ r' = { r with status := x }) ∨
    (key = "result" ∧ ∃ x, v.asOptional rows = .ok x ∧ r' = { r with result := x }) ∨
    (key = "results" ∧ ∃ x, v.asOptional rows = .ok x ∧ r' = { r with results := x }) ∨
    (key = "databases" ∧ ∃ x, v.asOptional (Json.asList Database.ofJson) = .ok x ∧
      r' = { r with databases := x }) ∨
    (key = "message" ∧ ∃ x, v.asOptional Json.asText = .ok x ∧ r' = { r with message := x }) ∨
    (key = "error" ∧ ∃ x, v.asOptional Json.asText = .ok x ∧ r' = { r with error := x }) ∨
    (key ∉ fieldNames ∧ r' = r) := by
  unfold put
  split_ifs with h₁ h₂ h₃ h₄ h₅ h₆
  all_goals
    subst_vars
    simp [bind_eq_ok_iff, pure, Except.pure, fieldNames, rows, @eq_comm _ r', *]

theorem put_ok_iff (r : Response) (key : String) (v : Json) :
    (∃ r', r.put key v = .ok r') ↔ Accepts key v := by
  by_cases hkey : key ∈ fieldNames
  · simp only [fieldNames, List.mem_cons, List.not_mem_nil, or_false] at hkey
    obtain rfl | rfl | rfl | rfl | rfl | rfl := hkey <;>
      simp [put_eq_ok_iff, Accepts, fieldNames, ← Json.exists_asOptional, @exists_comm Response]
  · have hput : r.put key v = .ok r := put_eq_ok_iff.2 (by simp [hkey])
    simp only [fieldNames, List.mem_cons, List.not_mem_nil, or_false, not_or] at hkey
    simp [hput, Accepts, hkey]

/-- Each field is set by the member of its name only. -/
theorem put_isField : Json.IsField put "status" status (Json.asOptional Json.asText) ∧
    Json.IsField put "result" result (Json.asOptional rows) ∧
    Json.IsField put "results" results (Json.asOptional rows) ∧
    Json.IsField put "databases" databases (Json.asOptional (Json.asList Database.ofJson)) ∧
    Json.IsField put "message" message (Json.asOptional Json.asText) ∧
    Json.IsField put "error" error (Json.asOptional Json.asText) := by
  refine ⟨⟨?_, ?_⟩, ⟨?_, ?_⟩, ⟨?_, ?_⟩, ⟨?_, ?_⟩, ⟨?_, ?_⟩, ⟨?_, ?_⟩⟩
  -- For each field: the member of its name sets it, and all others leave it alone.
  all_goals
    intros
    next h =>
    rcases put_eq_ok_iff.1 h with ⟨hkey, x, hx, rfl⟩ | ⟨hkey, x, hx, rfl⟩ | ⟨hkey, x, hx, rfl⟩ |
      ⟨hkey, x, hx, rfl⟩ | ⟨hkey, x, hx, rfl⟩ | ⟨hkey, x, hx, rfl⟩ | ⟨hkey, rfl⟩
    all_goals simp_all [fieldNames]

/-- Members decode to what their fields are read as. -/
theorem reads_of_ofMembers {members : List (String × Json)} {r : Response}
    (proper : (Json.object members).Proper) (h : ofMembers members = .ok r) :
    (Fields.ofObject members).Reads r := by
  have hdistinct := proper.distinct
  have htext : ∀ {key get}, get {} = none → Json.IsField put key get (Json.asOptional Json.asText) →
      Option.Rel (fun v s => v = .text s) (Json.given (Json.lookup members key)) (get r) := by
    intro key get hnone hfield
    have hget := hfield.foldlM hdistinct h
    rw [hnone] at hget
    simpa only [Json.asText_eq_ok_iff] using Json.elim_asOptional_eq_ok_iff.1 hget
  have hrows : ∀ {key get}, get {} = none → Json.IsField put key get (Json.asOptional rows) →
      Option.Rel (fun v rows => ∃ items, v = .list items ∧ rows = items.map Row.ofJson)
        (Json.given (Json.lookup members key)) (get r) := by
    intro key get hnone hfield
    have hget := hfield.foldlM hdistinct h
    rw [hnone] at hget
    simpa only [rows, Json.asList_total] using Json.elim_asOptional_eq_ok_iff.1 hget
  obtain ⟨hstatus, hresult, hresults, hdatabases, hmessage, herror⟩ := put_isField
  refine ⟨htext rfl hstatus, hrows rfl hresult, hrows rfl hresults, ?_, htext rfl hmessage,
    htext rfl herror⟩
  have hrel := Json.elim_asOptional_eq_ok_iff.1 (hdatabases.foldlM hdistinct h)
  show Option.Rel _ (Json.given (Json.lookup members "databases")) r.databases
  generalize hfield : Json.given (Json.lookup members "databases") = field at hrel ⊢
  generalize r.databases = databases at hrel ⊢
  cases hrel with
  | none => exact .none
  | some hv =>
    have hmem := Json.mem_of_lookup (Json.given_eq_some_iff.1 hfield).1
    exact .some ((Database.asList_eq_ok_iff (proper.of_object _ hmem)).1 hv)

/-- Members decode exactly when their fields are decodable, in whatever order they come. -/
theorem ofMembers_ok_iff {members : List (String × Json)}
    (proper : (Json.object members).Proper) :
    (∃ r, ofMembers members = .ok r) ↔ (Fields.ofObject members).Decodable := by
  unfold ofMembers
  rw [Json.foldlM_ok_iff put_ok_iff members {}, ← Json.forall_lookup_iff proper.distinct]
  constructor
  · intro h
    have haccepts : ∀ key v, Json.given (Json.lookup members key) = some v →
        Accepts key v ∧ v ≠ .null ∧ v.Proper := by
      intro key v hgiven
      obtain ⟨hlookup, hnull⟩ := Json.given_eq_some_iff.1 hgiven
      exact ⟨h key v hlookup, hnull, proper.of_object _ (Json.mem_of_lookup hlookup)⟩
    have htext : ∀ key v, Json.given (Json.lookup members key) = some v →
        key = "status" ∨ key = "message" ∨ key = "error" → Fields.IsText v := by
      intro key v hgiven hkey
      obtain ⟨hv, hnull, _⟩ := haccepts key v hgiven
      exact exists_asText_iff.1 ((hv hnull).1 hkey)
    have hlist : ∀ key v, Json.given (Json.lookup members key) = some v →
        key = "result" ∨ key = "results" → Fields.IsList v := by
      intro key v hgiven hkey
      obtain ⟨hv, hnull, _⟩ := haccepts key v hgiven
      exact exists_rows_iff.1 ((hv hnull).2.1 hkey)
    refine ⟨?_, ?_, ?_, ?_, ?_, ?_⟩
    · exact fun v hv => htext "status" v hv (.inl rfl)
    · exact fun v hv => hlist "result" v hv (.inl rfl)
    · exact fun v hv => hlist "results" v hv (.inr rfl)
    · intro v hgiven
      obtain ⟨hv, hnull, hproper⟩ := haccepts "databases" v hgiven
      exact (exists_databases_iff hproper).1 ((hv hnull).2.2 rfl)
    · exact fun v hv => htext "message" v hv (.inr (.inl rfl))
    · exact fun v hv => htext "error" v hv (.inr (.inr rfl))
  · intro h key v hlookup hnull
    have hgiven : Json.given (Json.lookup members key) = some v :=
      Json.given_eq_some_iff.2 ⟨hlookup, hnull⟩
    refine ⟨fun hkey => exists_asText_iff.2 ?_, fun hkey => exists_rows_iff.2 ?_,
      fun hkey => ?_⟩
    · rcases hkey with rfl | rfl | rfl
      · exact h.status v hgiven
      · exact h.message v hgiven
      · exact h.error v hgiven
    · rcases hkey with rfl | rfl
      · exact h.result v hgiven
      · exact h.results v hgiven
    · subst hkey
      have hproper := proper.of_object _ (Json.mem_of_lookup hlookup)
      exact (exists_databases_iff hproper).2 (h.databases v hgiven)

/-! ## Responses given as lists -/

theorem fieldNames_nodup : fieldNames.Nodup := by decide

/-- The fields of a list are those of an object with the values under their names. -/
theorem ofObject_zip (items : List Json) :
    Fields.ofObject (fieldNames.zip items) = Fields.ofList items := by
  have hzip : ∀ {i name}, fieldNames[i]? = some name →
      Json.lookup (fieldNames.zip items) name = items[i]? := Json.lookup_zip fieldNames_nodup
  rw [Fields.ofObject, Fields.ofList, Fields.mk.injEq]
  refine ⟨?_, ?_, ?_, ?_, ?_, ?_⟩
  all_goals exact congrArg Json.given (hzip rfl)

theorem zip_proper {items : List Json} (proper : (Json.list items).Proper) :
    (Json.object (fieldNames.zip items)).Proper := by
  refine .object ?_ ?_
  · exact (Json.keys_zip_sublist fieldNames items).nodup fieldNames_nodup
  · intro m hm
    exact proper.of_list _ (List.of_mem_zip hm).2

end Response

end QueryConsole
