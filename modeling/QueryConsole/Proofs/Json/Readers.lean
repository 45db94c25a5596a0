import QueryConsole.Json.Check
import QueryConsole.Json.Decode
import QueryConsole.Proofs.Json.Members
import QueryConsole.Proofs.Json.Simulation

/-!
# What the two readers of JSON accept

The full reading asks more of a text than the skipping one: it bounds the nesting, wants escapes in
pairs and texts in UTF-8, and numbers in range. Nothing that it accepts is rejected by the skipping
one. A value that it reads holds each key of an object once, at any depth.

## Main definitions

- `Json.Place.mark`: where the checker stands when the decoder stands at a place

## Main results

- `Json.check_of_decode`: every text that decodes passes the check
- `Json.proper_of_decode`: every value that is decoded is proper
-/

namespace QueryConsole

namespace Json

/-! ## Texts -/

/-- Where the checker stands in a text when the decoder stands at a place. It knows nothing of
pairs: behind the first unit of one it stands between characters. -/
def Place.mark : Place → Mark
  | .plain => .plain
  | .escape => .escape
  | .code digits _ => .code digits
  | .pair _ => .plain
  | .pairEscape _ => .escape

theorem mark_of_unitEnd {unit : Nat} {high : Option Nat} {bytes : List UInt8} {place : Place}
    (h : unitEnd unit high = some (bytes, place)) : place.mark = .plain := by
  unfold unitEnd at h
  split at h
  all_goals
    split_ifs at h
    all_goals
      rw [Option.some.injEq, Prod.mk.injEq] at h
      rw [← h.2]
      rfl

/-- Behind a code unit that the decoder takes, the checker stands between characters. -/
theorem skipText_code {b : UInt8} {bytes done digits all rest : List UInt8} {high : Option Nat}
    (ih : ∀ {done place}, contentFrom done place bytes = .ok (all, rest) →
      skipText place.mark bytes = .ok rest)
    (h : contentFrom done (.code digits high) (b :: bytes) = .ok (all, rest)) :
    skipText (.code digits) (b :: bytes) = .ok rest := by
  simp only [contentFrom] at h
  simp only [skipText]
  split_ifs at h ⊢
  · exact ih h
  · cases hcode : hexCode (digits ++ [b]) with
    | none =>
      rw [hcode] at h
      cases h
    | some unit =>
      rw [hcode] at h
      simp only at h ⊢
      cases hend : unitEnd unit high with
      | none =>
        rw [hend] at h
        cases h
      | some next =>
        obtain ⟨done', place⟩ := next
        rw [hend] at h
        rw [← mark_of_unitEnd hend]
        exact ih h

/-- The checker follows the decoder through a text. -/
theorem skipText_of_contentFrom {bytes : List UInt8} {done : List UInt8} {place : Place}
    {all rest : List UInt8} (h : contentFrom done place bytes = .ok (all, rest)) :
    skipText place.mark bytes = .ok rest := by
  induction bytes generalizing done place with
  | nil => cases place <;> cases h
  | cons b bytes ih =>
    cases place with
    | plain =>
      simp only [contentFrom] at h
      simp only [Place.mark, skipText]
      split_ifs at h ⊢
      · cases h
        rfl
      · exact ih h
      · exact ih h
    | escape =>
      simp only [contentFrom] at h
      simp only [Place.mark, skipText]
      split_ifs at h ⊢
      · exact ih h
      · cases hescape : escapeValue b with
        | none =>
          rw [hescape] at h
          cases h
        | some c =>
          rw [hescape] at h
          exact ih h
    | code digits high => exact skipText_code ih h
    | pair high =>
      -- The only byte the decoder takes here is the backslash of the second unit.
      simp only [contentFrom] at h
      split_ifs at h with hb
      subst hb
      exact ih h
    | pairEscape high =>
      simp only [contentFrom] at h
      split_ifs at h with hb
      subst hb
      exact ih h

/-- The checker finds the end of every text that the decoder reads. -/
theorem skipText_of_content {bytes rest : List UInt8} {s : String}
    (h : content bytes = .ok (s, rest)) : skipText .plain bytes = .ok rest := by
  obtain ⟨⟨done, rest⟩, hdone, h⟩ := bind_eq_ok_iff.1 h
  simp only at h
  split at h
  · cases h
    exact skipText_of_contentFrom hdone
  · cases h

/-! ## Whole texts -/

theorem decodingWith_simulates_checking (inner : List UInt8 → Option Json) :
    (decodingWith inner).Simulates checking (fun _ _ => True) (fun _ _ => True) where
  depth := by
    intro n h
    cases h
  text := by
    intro bytes s rest h
    refine ⟨(), ?_, trivial⟩
    exact map_eq_ok_iff.2 ⟨rest, skipText_of_content h, rfl⟩
  number := fun _ => ⟨(), rfl, trivial⟩
  null := trivial
  bool := fun _ => trivial
  ofText := fun _ => trivial
  list := fun _ => trivial
  object := fun _ _ => ⟨(), rfl, trivial⟩

/-- Every level of the full reading treats the texts inside of others in some way. -/
theorem decoding_eq (levels : Nat) : ∃ inner, decoding levels = decodingWith inner := by
  cases levels with
  | zero => exact ⟨_, rfl⟩
  | succ levels => exact ⟨_, rfl⟩

/-- Every text that decodes passes the check. -/
theorem check_of_decode {bytes : List UInt8} {v : Json} (h : decode bytes = .ok v) :
    check bytes = .ok () := by
  obtain ⟨part, hread, _⟩ := bind_eq_ok_iff.1 h
  obtain ⟨inner, hinner⟩ := decoding_eq bytes.length
  rw [hinner] at hread
  obtain ⟨u, hcheck, _⟩ := (decodingWith_simulates_checking inner).read hread
  exact hcheck

/-! ## Keys -/

/-- The same part in both readings, and a proper one. -/
def SameProper (part part' : Part) : Prop := part = part' ∧ part.value.Proper

theorem number_proper {n : Numeral} {v : Json} (h : n.value = some v) : v.Proper := by
  unfold Numeral.value at h
  simp only at h
  split_ifs at h
  · cases h
    exact .integer _
  · cases h
    exact .integer _
  · obtain ⟨x, _, rfl⟩ := Option.map_eq_some_iff.1 h
    exact .double x

/-- The value of an object's members is proper when theirs are. -/
theorem objectValue_proper {inner : List UInt8 → Option Json} {members : List (String × Part)}
    {v : Json} (hinner : ∀ bytes v, inner bytes = some v → v.Proper)
    (each : ∀ m ∈ members, m.2.value.Proper) (h : objectValue inner members = some v) :
    v.Proper := by
  unfold objectValue at h
  split at h
  · next key part rest =>
    split_ifs at h
    · split at h
      · exact hinner _ _ h
      · cases h
    · cases h
      refine .object (putAll_nodup _) ?_
      intro m hm
      obtain ⟨entry, hentry, rfl⟩ := List.mem_map.1 (mem_of_mem_putAll hm)
      exact each entry hentry
  · cases h
    exact .object List.nodup_nil (fun m hm => nomatch hm)

theorem eq_of_memberRel {ms ms' : List (String × Part)}
    (h : List.Forall₂ (MemberRel SameProper Eq) ms ms') :
    ms = ms' ∧ ∀ m ∈ ms, m.2.value.Proper := by
  induction h with
  | nil => exact ⟨rfl, fun m hm => nomatch hm⟩
  | cons hm _ ih =>
    obtain ⟨hkey, hpart, hproper⟩ := hm
    refine ⟨?_, List.forall_mem_cons.2 ⟨hproper, ih.2⟩⟩
    rw [ih.1, Prod.ext hkey hpart]

theorem decodingWith_simulates_self {inner : List UInt8 → Option Json}
    (hinner : ∀ bytes v, inner bytes = some v → v.Proper) :
    (decodingWith inner).Simulates (decodingWith inner) SameProper Eq where
  depth := id
  text := fun h => ⟨_, h, rfl⟩
  number := by
    intro n part h
    obtain ⟨v, hv, rfl⟩ := Option.map_eq_some_iff.1 h
    exact ⟨_, h, rfl, number_proper hv⟩
  null := ⟨rfl, .null⟩
  bool := fun b => ⟨rfl, .bool b⟩
  ofText := by
    rintro s _ rfl
    exact ⟨rfl, .text s⟩
  list := by
    intro parts parts' h
    have hsame : parts = parts' ∧ ∀ part ∈ parts, part.value.Proper := by
      induction h with
      | nil => exact ⟨rfl, fun part hpart => nomatch hpart⟩
      | cons hpart _ ih =>
        exact ⟨congrArg₂ _ hpart.1 ih.1, List.forall_mem_cons.2 ⟨hpart.2, ih.2⟩⟩
    refine ⟨by rw [hsame.1], .list ?_⟩
    intro v hv
    obtain ⟨part, hpart, rfl⟩ := List.mem_map.1 hv
    exact hsame.2 part hpart
  object := by
    intro ms ms' part hms h
    obtain ⟨rfl, each⟩ := eq_of_memberRel hms
    obtain ⟨v, hv, rfl⟩ := Option.map_eq_some_iff.1 h
    exact ⟨_, h, rfl, objectValue_proper hinner each hv⟩

/-- Whatever the full reading accepts is proper, also inside of texts that hold others. -/
theorem decoding_proper {levels : Nat} {bytes : List UInt8} {part : Part}
    (h : (decoding levels).read bytes = .ok part) : part.value.Proper := by
  induction levels generalizing bytes part with
  | zero =>
    have hinner : ∀ (bytes : List UInt8) (v : Json), none = some v → v.Proper := by
      intro bytes v hv
      cases hv
    obtain ⟨_, _, _, hproper⟩ := (decodingWith_simulates_self hinner).read h
    exact hproper
  | succ levels ih =>
    have hinner : ∀ bytes v,
        ((decoding levels).read bytes).toOption.map Part.value = some v → v.Proper := by
      intro bytes v hv
      obtain ⟨part, hpart, rfl⟩ := Option.map_eq_some_iff.1 hv
      cases hread : (decoding levels).read bytes with
      | error e =>
        rw [hread] at hpart
        cases hpart
      | ok part' =>
        rw [hread] at hpart
        cases hpart
        exact ih hread
    obtain ⟨_, _, _, hproper⟩ := (decodingWith_simulates_self hinner).read h
    exact hproper

/-- Every value that is decoded is proper. -/
theorem proper_of_decode {bytes : List UInt8} {v : Json} (h : decode bytes = .ok v) :
    v.Proper := by
  obtain ⟨part, hread, h⟩ := bind_eq_ok_iff.1 h
  cases h
  exact decoding_proper hread

end Json

end QueryConsole
