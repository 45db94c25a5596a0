import QueryConsole.Proofs.Except
import QueryConsole.Proofs.Json.Members
import QueryConsole.Reply.Decode

/-!
# Decoding texts, lists and optional values

## Main definitions

- `Json.given`: the value that an optional field is given
- `Json.texts`: a list of texts

## Main results

- `Json.asText_eq_ok_iff`, `Json.asList_eq_ok_iff`: what a text and a list decode to
- `Json.elim_asOptional_eq_ok_iff`: what an optional field decodes to
-/

namespace QueryConsole

namespace Json

/-- The value that a field is given. Null stands for an absent field. -/
def given : Option Json → Option Json
  | some .null => none
  | field => field

theorem given_eq_some_iff {field : Option Json} {v : Json} :
    given field = some v ↔ field = some v ∧ v ≠ .null := by
  unfold given
  split
  · next h => simp [eq_comm]
  · next h =>
    constructor
    · intro heq
      exact ⟨heq, fun hnull => h (hnull ▸ heq)⟩
    · exact And.left

theorem asText_eq_ok_iff {v : Json} {s : String} : v.asText = .ok s ↔ v = .text s := by
  cases v <;> simp [asText]

theorem asList_eq_ok_iff {α : Type} {entry : Json → Except Mismatch α} {v : Json} {xs : List α} :
    v.asList entry = .ok xs ↔
      ∃ items, v = .list items ∧ List.Forall₂ (fun v x => entry v = .ok x) items xs := by
  cases v <;> simp [asList, mapM_eq_ok_iff]

/-- A list whose entries all decode is decoded entry by entry. -/
theorem asList_total {α : Type} (f : Json → α) (v : Json) (xs : List α) :
    v.asList (fun v => .ok (f v)) = .ok xs ↔ ∃ items, v = .list items ∧ xs = items.map f := by
  rw [asList_eq_ok_iff]
  have hmap : ∀ items : List Json,
      List.Forall₂ (fun v x => f v = x) items xs ↔ xs = items.map f := by
    intro items
    rw [← List.forall₂_map_left_iff, List.forall₂_eq_eq_eq, eq_comm]
  simp only [Except.ok.injEq, hmap]

/-- A list of texts. -/
def texts (xs : List String) : Json := .list (xs.map .text)

theorem texts_injective : Function.Injective texts := by
  intro xs ys h
  exact List.map_injective_iff.2 (fun _ _ => Json.text.inj) (Json.list.inj h)

theorem asTexts_eq_ok_iff {v : Json} {xs : List String} :
    v.asList asText = .ok xs ↔ v = texts xs := by
  unfold texts
  rw [asList_eq_ok_iff]
  simp only [asText_eq_ok_iff]
  constructor
  · rintro ⟨items, rfl, h⟩
    induction h with
    | nil => rfl
    | cons hx _ ih =>
      rw [hx, List.map_cons]
      exact congrArg _ (congrArg _ (Json.list.inj ih))
  · rintro rfl
    exact ⟨_, rfl, List.forall₂_map_left_iff.2 (List.forall₂_same.2 fun _ _ => rfl)⟩

/-- Two optional values related by a function are one mapped to the other. -/
theorem rel_iff {α : Type} {f : α → Json} {field : Option Json} {x : Option α} :
    Option.Rel (fun v a => v = f a) field x ↔ field = x.map f := by
  cases field <;> cases x <;> simp

theorem elim_eq_ok_iff {α : Type} {decode : Json → Except Mismatch α} {field : Option Json}
    {x : Option α} : field.elim (.ok none) (fun v => (decode v).map some) = .ok x ↔
      Option.Rel (fun v y => decode v = .ok y) field x := by
  cases field with
  | none => cases x <;> simp
  | some v =>
    rw [Option.elim_some, map_eq_ok_iff]
    cases x <;> simp

theorem asOptional_eq {α : Type} (decode : Json → Except Mismatch α) (v : Json) :
    v.asOptional decode = (given (some v)).elim (.ok none) fun v => (decode v).map some := by
  cases v <;> rfl

/-- An optional field is read as nothing when none is given, and else as its value decodes. -/
theorem elim_asOptional_eq_ok_iff {α : Type} {decode : Json → Except Mismatch α}
    {field : Option Json} {x : Option α} : field.elim (.ok none) (asOptional decode) = .ok x ↔
      Option.Rel (fun v y => decode v = .ok y) (given field) x := by
  rw [← elim_eq_ok_iff]
  cases field with
  | none => rfl
  | some v => rw [Option.elim_some, asOptional_eq]

theorem exists_asOptional {α : Type} {decode : Json → Except Mismatch α} {v : Json} :
    (∃ x, v.asOptional decode = .ok x) ↔ (v ≠ .null → ∃ y, decode v = .ok y) := by
  cases v with
  | null => simp [asOptional]
  | _ =>
    simp only [asOptional]
    cases decode _ <;> simp [Except.map]

end Json

end QueryConsole
