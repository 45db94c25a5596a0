import QueryConsole.Proofs.Json.Readers

/-!
# What the full reader of JSON refuses

The two readers drive the same machine and meet the same faults of grammar, at the same places. So
when the full reading refuses a text, either the skipping one refuses it too, with the same fault,
or the fault is one that the grammar does not speak of: of nesting, of the range of numbers, of
surrogates, of the encoding, or of a text inside of another.

## Main definitions

- `Json.Flaw.isBeyondGrammar`: the flaws that only the full reading knows
- `Json.Shared`: a fault of one reading that another one has as well, unless it cannot know it
- `Json.refusal`: the fault for which a text does not decode

## Main results

- `Json.Reading.Simulates.read_error`: the faults of a reading are shared by one that simulates it
- `Json.check_of_decode_error`: what does not decode does not pass the check, or the flaw is beyond
  grammar
- `Json.beyond_grammar_unchecked`: each of those flaws passes the check
-/

namespace QueryConsole

namespace Json

/-- The flaws that a text may have although it follows the grammar. -/
def Flaw.isBeyondGrammar : Flaw → Bool
  | .nesting | .range | .surrogate | .encoding | .embedding => true
  | _ => false

/-- A fault that another reading has as well, unless its flaw is beyond grammar. -/
def Shared {α : Type} (f : Fault) (result : Except Fault α) : Prop :=
  f.flaw.isBeyondGrammar = true ∨ result = .error f

variable {α β γ : Type} {f : Fault}

/-- Both readings refuse at once. -/
theorem shared_error {e : Fault} (h : (.error e : Except Fault α) = .error f) :
    Shared f (.error e : Except Fault β) := by
  cases h
  exact .inr rfl

/-- What is refused at first is refused altogether. -/
theorem Shared.bind {x : Except Fault α} (h : Shared f x) (next : α → Except Fault β) :
    Shared f (x >>= next) :=
  h.imp_right fun hx => by rw [hx]; rfl

/-- Both readings take the same lexeme, and go on with what it is. -/
theorem shared_bind {x : Except Fault α} {next : α → Except Fault β} {next' : α → Except Fault γ}
    (h : (x >>= next) = .error f) (hnext : ∀ a, next a = .error f → Shared f (next' a)) :
    Shared f (x >>= next') := by
  cases x with
  | error e =>
    cases h
    exact .inr rfl
  | ok a => exact hnext a h

/-- A text is read, and what follows it. -/
theorem shared_text {τ τ' : Type} {x : Except Fault (τ × List UInt8)}
    {y : Except Fault (τ' × List UInt8)} {next : τ × List UInt8 → Except Fault β}
    {next' : τ' × List UInt8 → Except Fault γ} (h : (x >>= next) = .error f)
    (herror : x = .error f → Shared f y)
    (hok : ∀ {t rest}, x = .ok (t, rest) → ∃ t', y = .ok (t', rest) ∧
      (next (t, rest) = .error f → Shared f (next' (t', rest)))) : Shared f (y >>= next') := by
  cases x with
  | error e =>
    cases h
    exact (herror rfl).bind next'
  | ok read =>
    obtain ⟨t', hy, hnext⟩ := hok rfl
    rw [hy]
    exact hnext h

namespace Reading

variable {ν τ ν' τ' : Type} {r : Reading ν τ} {c : Reading ν' τ'} {R : ν → ν' → Prop}
  {T : τ → τ' → Prop} {stack : List (Frame ν τ)} {stack' : List (Frame ν' τ')}

theorem finish_shared {v : ν} {v' : ν'} {rest : List UInt8}
    (hstack : List.Forall₂ (Frame.Rel R T) stack stack') (h : finish v stack rest = .error f) :
    Shared f (finish v' stack' rest) := by
  rcases hstack with _ | ⟨_ | _ | _, _⟩ <;> cases h
  exact .inr rfl

theorem enter_shared {want : Want} {frame : Frame ν τ} {rest : List UInt8}
    (h : r.enter want frame stack rest = .error f) (result : Except Fault α) :
    Shared f result := by
  unfold enter at h
  split at h <;> cases h
  exact .inl rfl

namespace Simulates

variable (sim : r.Simulates c R T)
include sim

theorem leave_shared {rest : List UInt8} (hstack : List.Forall₂ (Frame.Rel R T) stack stack')
    (h : r.leave stack rest = .error f) : Shared f (c.leave stack' rest) := by
  rcases hstack with _ | ⟨entries | entries | _, hstack⟩
  · exact shared_error h
  · exact finish_shared hstack h
  · simp only [Reading.leave] at h ⊢
    split at h
    · next v hobject =>
      obtain ⟨v', hobject', _⟩ := sim.object (List.rel_reverse entries) hobject
      rw [hobject']
      exact finish_shared hstack h
    · cases h
      exact .inl rfl
  · exact shared_error h

variable (htext : ∀ {bytes f}, r.text bytes = .error f → Shared f (c.text bytes))
include htext

theorem stepValue_shared {bytes : List UInt8} (hstack : List.Forall₂ (Frame.Rel R T) stack stack')
    (h : r.stepValue stack bytes = .error f) : Shared f (c.stepValue stack' bytes) := by
  cases bytes with
  | nil => exact shared_error h
  | cons b rest =>
    simp only [Reading.stepValue] at h ⊢
    split_ifs at h ⊢
    · exact shared_bind h fun _ => finish_shared hstack
    · exact shared_bind h fun _ => finish_shared hstack
    · exact shared_bind h fun _ => finish_shared hstack
    · refine shared_bind h ?_
      rintro ⟨n, rest⟩ h
      simp only at h ⊢
      split at h
      · next v hnumber =>
        obtain ⟨v', hnumber', _⟩ := sim.number hnumber
        rw [hnumber']
        exact finish_shared hstack h
      · cases h
        exact .inl rfl
    · refine shared_text h htext ?_
      intro t rest hread
      obtain ⟨t', hread', _⟩ := sim.text hread
      exact ⟨t', hread', finish_shared hstack⟩
    · exact enter_shared h _
    · exact enter_shared h _
    · exact shared_error h

theorem stepKey_shared {bytes : List UInt8} (hstack : List.Forall₂ (Frame.Rel R T) stack stack')
    (h : r.stepKey stack bytes = .error f) : Shared f (c.stepKey stack' bytes) := by
  cases bytes with
  | nil => exact shared_error h
  | cons b rest =>
    rcases hstack with _ | ⟨_ | entries | _, hstack⟩
    · exact shared_error h
    · exact shared_error h
    · simp only [Reading.stepKey] at h ⊢
      split_ifs at h ⊢
      · refine shared_text h htext ?_
        intro key rest hread
        obtain ⟨key', hread', _⟩ := sim.text hread
        refine ⟨key', hread', ?_⟩
        -- behind the key, both look for the colon in the same bytes
        intro h
        simp only at h ⊢
        split at h
        · exact shared_error h
        · split_ifs at h ⊢
          exact shared_error h
      · exact shared_error h
    · exact shared_error h

omit htext in
theorem stepMore_shared {bytes : List UInt8} (hstack : List.Forall₂ (Frame.Rel R T) stack stack')
    (h : r.stepMore stack bytes = .error f) : Shared f (c.stepMore stack' bytes) := by
  -- related stacks are open at the same kind of frame, so both look for the same end
  have hopen := hstack
  cases bytes with
  | nil =>
    rcases hopen with _ | ⟨_ | _ | _, _⟩
    all_goals exact shared_error h
  | cons b rest =>
    rcases hopen with _ | ⟨_ | _ | _, _⟩
    all_goals
      simp only [Reading.stepMore] at h ⊢
      split_ifs at h ⊢
      · exact sim.leave_shared hstack h
      · exact shared_error h

/-- One lexeme. -/
theorem step_shared {s : Reader ν τ} {s' : Reader ν' τ'} (hs : Reader.Rel R T s s')
    (h : r.step s = .error f) : Shared f (c.step s') := by
  obtain ⟨want, stack, rest⟩ := s
  obtain ⟨want', stack', rest'⟩ := s'
  obtain ⟨hwant, hstack, hrest⟩ := hs
  simp only at hwant hstack hrest
  subst hwant hrest
  simp only [Reading.step] at h ⊢
  generalize skipBlank rest = bytes at h ⊢
  cases want with
  | value => exact sim.stepValue_shared htext hstack h
  | key => exact sim.stepKey_shared htext hstack h
  | more => exact sim.stepMore_shared hstack h
  | first =>
    cases bytes with
    | nil => exact shared_error h
    | cons b rest =>
      simp only at h ⊢
      split_ifs at h ⊢
      · exact sim.leave_shared hstack h
      · exact sim.stepValue_shared htext hstack h
  | firstKey =>
    cases bytes with
    | nil => exact shared_error h
    | cons b rest =>
      simp only at h ⊢
      split_ifs at h ⊢
      · exact sim.leave_shared hstack h
      · exact sim.stepKey_shared htext hstack h

/-- Lexeme after lexeme. -/
theorem run_shared {fuel : Nat} {s : Reader ν τ} {s' : Reader ν' τ'} (hs : Reader.Rel R T s s')
    (h : r.run fuel s = .error f) : Shared f (c.run fuel s') := by
  induction fuel generalizing s s' with
  | zero =>
    cases h
    exact .inr (by rw [Reading.run, hs.rest])
  | succ fuel ih =>
    rw [Reading.run] at h ⊢
    cases hstep : r.step s with
    | error e =>
      rw [hstep] at h
      cases h
      exact (sim.step_shared htext hs hstep).bind _
    | ok p =>
      obtain ⟨p', hstep', hrel⟩ := sim.step hs hstep
      rw [hstep] at h
      rw [hstep']
      cases hrel with
      | done rest values => cases h
      | reading readers => exact ih readers h

/-- A whole text. -/
theorem read_shared {bytes : List UInt8} (h : r.read bytes = .error f) :
    Shared f (c.read bytes) := by
  have hstart : Reader.Rel R T ⟨.value, [], bytes⟩ ⟨.value, [], bytes⟩ := ⟨rfl, .nil, rfl⟩
  refine shared_text h (sim.run_shared htext hstart) ?_
  intro v rest hrun
  obtain ⟨v', hrun', _⟩ := sim.run hstart hrun
  refine ⟨v', hrun', ?_⟩
  -- behind the value, both look for the end in the same bytes
  intro h
  simp only at h ⊢
  split at h
  · cases h
  · exact shared_error h

end Simulates

end Reading

/-! ## Texts -/

/-- The checker meets the faults of the decoder in a text. -/
theorem skipText_of_contentFrom_error {bytes done : List UInt8} {place : Place}
    (h : contentFrom done place bytes = .error f) : Shared f (skipText place.mark bytes) := by
  induction bytes generalizing done place with
  | nil => cases place <;> exact shared_error h
  | cons b bytes ih =>
    cases place with
    | plain =>
      simp only [contentFrom] at h
      simp only [Place.mark, skipText]
      split_ifs at h ⊢
      · exact ih h
      · exact shared_error h
      · exact ih h
    | escape =>
      simp only [contentFrom] at h
      simp only [Place.mark, skipText]
      split_ifs at h ⊢
      · exact ih h
      · cases hescape : escapeValue b with
        | none =>
          rw [hescape] at h
          exact shared_error h
        | some c =>
          rw [hescape] at h
          exact ih h
    | code digits high =>
      simp only [contentFrom] at h
      simp only [Place.mark, skipText]
      split_ifs at h ⊢
      · exact ih h
      · cases hcode : hexCode (digits ++ [b]) with
        | none =>
          rw [hcode] at h
          exact shared_error h
        | some unit =>
          rw [hcode] at h
          simp only at h ⊢
          cases hend : unitEnd unit high with
          | none =>
            rw [hend] at h
            cases h
            exact .inl rfl
          | some next =>
            obtain ⟨done', place⟩ := next
            rw [hend] at h
            rw [← mark_of_unitEnd hend]
            exact ih h
    | pair high =>
      simp only [contentFrom] at h
      split_ifs at h with hb
      · subst hb
        exact ih h
      · cases h
        exact .inl rfl
    | pairEscape high =>
      simp only [contentFrom] at h
      split_ifs at h with hb
      · subst hb
        exact ih h
      · cases h
        exact .inl rfl

/-- The checker meets the faults of the decoder in a text and behind it. -/
theorem skipText_of_content_error {bytes : List UInt8} (h : content bytes = .error f) :
    Shared f (skipText .plain bytes) := by
  unfold content at h
  cases hfrom : contentFrom [] .plain bytes with
  | error e =>
    rw [hfrom] at h
    cases h
    exact skipText_of_contentFrom_error hfrom
  | ok read =>
    obtain ⟨done, rest⟩ := read
    rw [hfrom] at h
    simp only [bind, Except.bind] at h
    split at h
    · cases h
    · cases h
      exact .inl rfl

/-- A text that does not decode does not pass the check, for the same reason and at the same place,
unless the flaw is beyond grammar. -/
theorem check_of_decode_error {bytes : List UInt8} (h : decode bytes = .error f) :
    Shared f (check bytes) := by
  obtain ⟨inner, hinner⟩ := decoding_eq bytes.length
  have htext {bytes : List UInt8} {f : Fault} (h : (decodingWith inner).text bytes = .error f) :
      Shared f (checking.text bytes) :=
    (skipText_of_content_error h).imp_right fun hskip => by
      show (skipText .plain bytes).map (Prod.mk ()) = _
      rw [hskip]
      rfl
  have hread : (decodingWith inner).read bytes = .error f := by
    rw [decode, hinner] at h
    cases hread : (decodingWith inner).read bytes with
    | error e =>
      rw [hread] at h
      cases h
      rfl
    | ok part =>
      rw [hread] at h
      cases h
  exact (decodingWith_simulates_checking inner).read_shared htext hread

/-! ## Texts that only pass the check -/

/-- The fault for which a text does not decode. -/
def refusal (bytes : List UInt8) : Option Fault :=
  match decode bytes with
  | .ok _ => none
  | .error f => some f

theorem refusal_eq_some_iff {bytes : List UInt8} :
    refusal bytes = some f ↔ decode bytes = .error f := by
  unfold refusal
  cases decode bytes <;> simp

/-- Each flaw beyond grammar is one that some text has that passes the check. -/
theorem beyond_grammar_unchecked (flaw : Flaw) (h : flaw.isBeyondGrammar = true) :
    ∃ bytes left, check bytes = .ok () ∧ decode bytes = .error ⟨flaw, left⟩ := by
  simp only [← refusal_eq_some_iff]
  cases flaw with
  | nesting =>
    exact ⟨.replicate 128 0x5B ++ .replicate 128 0x5D, 128, by decide +kernel, by decide +kernel⟩
  | range => exact ⟨Utf8.bytesOf "1e999", 0, by decide +kernel, by decide +kernel⟩
  | surrogate => exact ⟨Utf8.bytesOf "\"\\ud800\"", 0, by decide +kernel, by decide +kernel⟩
  | encoding => exact ⟨[0x22, 0xFF, 0x22], 0, by decide +kernel, by decide +kernel⟩
  | embedding =>
    exact ⟨Utf8.bytesOf "\x7b\"$serde_json::private::RawValue\":1\x7d", 0, by decide +kernel,
      by decide +kernel⟩
  | _ => cases h

end Json

end QueryConsole
