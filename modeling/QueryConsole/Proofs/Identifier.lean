import QueryConsole.Identifier

/-!
# Names inside statements

A valid name is a text of the pattern `[A-Za-z_][A-Za-z0-9_]*`. So it holds no semicolon, and a
statement that a valid name is put into is one statement, which ends where it was meant to end.

## Main definitions

- `Identifier.IsName`: the pattern
- `Identifier.EndsOnce`: a statement has its only semicolon at its end

## Main results

- `Identifier.isValid_iff`: the check accepts exactly the texts of the pattern
- `Identifier.IsName.not_mem`: a name holds no other characters
- `Identifier.IsName.endsOnce`: a name put into a statement adds no end to it
-/

namespace QueryConsole

namespace Identifier

/-- The texts of the pattern `[A-Za-z_][A-Za-z0-9_]*`. -/
def IsName (name : String) : Prop :=
  ∃ first rest, name.toList = first :: rest ∧ (first.isAlpha ∨ first = '_') ∧
    ∀ c ∈ rest, c.isAlphanum ∨ c = '_'

/-- A statement holds one semicolon, and that is its last character. -/
def EndsOnce (statement : String) : Prop :=
  statement.toList.count ';' = 1 ∧ statement.toList.getLast? = some ';'

theorem isStart_iff {c : Char} : isStart c = true ↔ c.isAlpha ∨ c = '_' := by
  have halpha : c.isAlpha = (c.isUpper || c.isLower) := rfl
  have hlower : c.isLower = (decide ('a' ≤ c) && decide (c ≤ 'z')) := rfl
  have hupper : c.isUpper = decide ('A' ≤ c ∧ c ≤ 'Z') := rfl
  rw [isStart, halpha, hlower, hupper, Bool.decide_and, Bool.or_comm (decide ('A' ≤ c) && _)]
  simp

theorem isNext_iff {c : Char} : isNext c = true ↔ c.isAlphanum ∨ c = '_' := by
  have hdigit : c.isDigit = (decide ('0' ≤ c) && decide (c ≤ '9')) := rfl
  have halphanum : c.isAlphanum = (c.isAlpha || c.isDigit) := rfl
  rw [isNext, Bool.or_eq_true, isStart_iff, halphanum, hdigit, Bool.or_eq_true]
  exact or_right_comm

/-- The check accepts exactly the texts of the pattern. -/
theorem isValid_iff {name : String} : isValid name = true ↔ IsName name := by
  unfold isValid IsName
  cases name.toList with
  | nil => simp [isValidChars]
  | cons first rest =>
    simp only [isValidChars, Bool.and_eq_true, List.all_eq_true, isStart_iff, isNext_iff]
    constructor
    · rintro ⟨hfirst, hrest⟩
      exact ⟨first, rest, rfl, hfirst, hrest⟩
    · rintro ⟨_, _, h, hfirst, hrest⟩
      obtain ⟨rfl, rfl⟩ := List.cons.inj h
      exact ⟨hfirst, hrest⟩

/-- A name holds letters, digits and underscores only. -/
theorem IsName.not_mem {name : String} (h : IsName name) {c : Char}
    (hc : ¬(c.isAlphanum ∨ c = '_')) : c ∉ name.toList := by
  obtain ⟨first, rest, hname, hfirst, hrest⟩ := h
  rw [hname]
  intro hmem
  obtain rfl | hmem := List.mem_cons.1 hmem
  · have hletter : c.isAlpha → c.isAlphanum := by
      intro halpha
      rw [Char.isAlphanum, halpha, Bool.true_or]
    exact hc (hfirst.imp_left hletter)
  · exact hc (hrest c hmem)

/-- A name put behind words without a semicolon adds no end to the statement. -/
theorem IsName.endsOnce {name : String} (h : IsName name) {words : String}
    (hwords : ';' ∉ words.toList) : EndsOnce (words ++ name ++ ";") := by
  have hname : ';' ∉ name.toList := h.not_mem (by decide)
  have hbefore : (words.toList ++ name.toList).count ';' = 0 := by
    rw [List.count_append, List.count_eq_zero.2 hwords, List.count_eq_zero.2 hname]
  constructor
  · rw [String.toList_append, String.toList_append, List.count_append, hbefore]
    rfl
  · rw [String.toList_append]
    simp

end Identifier

end QueryConsole
