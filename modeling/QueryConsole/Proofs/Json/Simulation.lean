import QueryConsole.Json.Grammar
import QueryConsole.Proofs.Except

/-!
# Two readings of one text

Every reading drives the same machine, so two of them can be run side by side on one text. When each
lexeme that the first accepts is accepted by the second, and what the two make of it is related,
then every text that the first accepts is accepted by the second, with related values.

## Main definitions

- `Json.Reading.Simulates`: one reading accepts lexeme by lexeme what another accepts

## Main results

- `Json.Reading.Simulates.step`: the two machines stay related for one lexeme
- `Json.Reading.Simulates.read`: whole texts
-/

namespace QueryConsole

namespace Json

variable {ν τ ν' τ' : Type}

/-- Two members with related keys and related values. -/
def MemberRel (R : ν → ν' → Prop) (T : τ → τ' → Prop) (m : τ × ν) (m' : τ' × ν') : Prop :=
  T m.1 m'.1 ∧ R m.2 m'.2

/-- Two open lists or objects with related entries. -/
inductive Frame.Rel (R : ν → ν' → Prop) (T : τ → τ' → Prop) : Frame ν τ → Frame ν' τ' → Prop
  | list {items : List ν} {items' : List ν'} (entries : List.Forall₂ R items items') :
      Rel R T (.list items) (.list items')
  | object {members : List (τ × ν)} {members' : List (τ' × ν')}
      (entries : List.Forall₂ (MemberRel R T) members members') :
      Rel R T (.object members) (.object members')
  | member {members : List (τ × ν)} {members' : List (τ' × ν')} {key : τ} {key' : τ'}
      (entries : List.Forall₂ (MemberRel R T) members members') (keys : T key key') :
      Rel R T (.member members key) (.member members' key')

/-- Two texts that are being read at the same place. -/
structure Reader.Rel (R : ν → ν' → Prop) (T : τ → τ' → Prop) (s : Reader ν τ)
    (s' : Reader ν' τ') : Prop where
  want : s.want = s'.want
  stack : List.Forall₂ (Frame.Rel R T) s.stack s'.stack
  rest : s.rest = s'.rest

/-- A lexeme that led to the same place in both readings. -/
inductive Progress.Rel (R : ν → ν' → Prop) (T : τ → τ' → Prop) :
    Progress ν τ → Progress ν' τ' → Prop
  | done {v : ν} {v' : ν'} (rest : List UInt8) (values : R v v') :
      Rel R T (.done v rest) (.done v' rest)
  | reading {s : Reader ν τ} {s' : Reader ν' τ'} (readers : Reader.Rel R T s s') :
      Rel R T (.reading s) (.reading s')

namespace Reading

/-- Whatever the one reading makes of a lexeme, the other makes something related of it. -/
structure Simulates (r : Reading ν τ) (c : Reading ν' τ') (R : ν → ν' → Prop)
    (T : τ → τ' → Prop) : Prop where
  depth : ∀ {n}, c.depth.any (· ≤ n) = true → r.depth.any (· ≤ n) = true
  text : ∀ {bytes t rest}, r.text bytes = .ok (t, rest) →
    ∃ t', c.text bytes = .ok (t', rest) ∧ T t t'
  number : ∀ {n v}, r.number n = some v → ∃ v', c.number n = some v' ∧ R v v'
  null : R r.null c.null
  bool : ∀ b, R (r.bool b) (c.bool b)
  ofText : ∀ {t t'}, T t t' → R (r.ofText t) (c.ofText t')
  list : ∀ {vs vs'}, List.Forall₂ R vs vs' → R (r.list vs) (c.list vs')
  object : ∀ {ms ms' v}, List.Forall₂ (MemberRel R T) ms ms' → r.object ms = some v →
    ∃ v', c.object ms' = some v' ∧ R v v'

variable {r : Reading ν τ} {c : Reading ν' τ'} {R : ν → ν' → Prop} {T : τ → τ' → Prop}
  {stack : List (Frame ν τ)} {stack' : List (Frame ν' τ')} {p : Progress ν τ}

/-- The results that a step of the second reading must have. -/
def Follows (R : ν → ν' → Prop) (T : τ → τ' → Prop) (p : Progress ν τ)
    (result : Except Fault (Progress ν' τ')) : Prop :=
  ∃ p', result = .ok p' ∧ Progress.Rel R T p p'

theorem follows_reading {want : Want} {rest : List UInt8}
    (hstack : List.Forall₂ (Frame.Rel R T) stack stack') :
    Follows R T (.reading ⟨want, stack, rest⟩) (.ok (.reading ⟨want, stack', rest⟩)) :=
  ⟨_, rfl, .reading ⟨rfl, hstack, rfl⟩⟩

/-- Both readings take the same lexeme, and go on with what it is. -/
theorem follows_bind {α : Type} {x : Except Fault α} {f : α → Except Fault (Progress ν τ)}
    {g : α → Except Fault (Progress ν' τ')} (h : (x >>= f) = .ok p)
    (hfg : ∀ a, f a = .ok p → Follows R T p (g a)) : Follows R T p (x >>= g) := by
  obtain ⟨a, rfl, ha⟩ := bind_eq_ok_iff.1 h
  exact hfg a ha

theorem finish_follows {v : ν} {v' : ν'} {rest : List UInt8} (hv : R v v')
    (hstack : List.Forall₂ (Frame.Rel R T) stack stack') (h : finish v stack rest = .ok p) :
    Follows R T p (finish v' stack' rest) := by
  cases hstack with
  | nil =>
    cases h
    exact ⟨_, rfl, .done rest hv⟩
  | cons hframe hstack =>
    cases hframe with
    | list entries =>
      cases h
      exact follows_reading (.cons (.list (.cons hv entries)) hstack)
    | object entries => cases h
    | member entries keys =>
      cases h
      exact follows_reading (.cons (.object (.cons ⟨keys, hv⟩ entries)) hstack)

namespace Simulates

variable (sim : r.Simulates c R T)
include sim

theorem enter {want : Want} {frame : Frame ν τ} {frame' : Frame ν' τ'} {rest : List UInt8}
    (hframe : Frame.Rel R T frame frame') (hstack : List.Forall₂ (Frame.Rel R T) stack stack')
    (h : r.enter want frame stack rest = .ok p) :
    Follows R T p (c.enter want frame' stack' rest) := by
  unfold Reading.enter at h ⊢
  split at h
  · cases h
  · next hdepth =>
    cases h
    rw [hstack.length_eq] at hdepth
    rw [if_neg (mt sim.depth hdepth)]
    exact follows_reading (.cons hframe hstack)

theorem leave {rest : List UInt8} (hstack : List.Forall₂ (Frame.Rel R T) stack stack')
    (h : r.leave stack rest = .ok p) : Follows R T p (c.leave stack' rest) := by
  cases hstack with
  | nil => cases h
  | cons hframe hstack =>
    cases hframe with
    | list entries =>
      exact finish_follows (sim.list (List.rel_reverse entries)) hstack h
    | object entries =>
      simp only [Reading.leave] at h ⊢
      split at h
      · next v hobject =>
        obtain ⟨v', hobject', hv⟩ := sim.object (List.rel_reverse entries) hobject
        rw [hobject']
        exact finish_follows hv hstack h
      · cases h
    | member entries keys => cases h

theorem stepValue {bytes : List UInt8} (hstack : List.Forall₂ (Frame.Rel R T) stack stack')
    (h : r.stepValue stack bytes = .ok p) : Follows R T p (c.stepValue stack' bytes) := by
  cases bytes with
  | nil => cases h
  | cons b rest =>
    simp only [Reading.stepValue] at h ⊢
    split_ifs at h ⊢
    · exact follows_bind h fun _ => finish_follows sim.null hstack
    · exact follows_bind h fun _ => finish_follows (sim.bool true) hstack
    · exact follows_bind h fun _ => finish_follows (sim.bool false) hstack
    · refine follows_bind h ?_
      rintro ⟨n, rest⟩ h
      simp only at h ⊢
      split at h
      · next v hnumber =>
        obtain ⟨v', hnumber', hv⟩ := sim.number hnumber
        rw [hnumber']
        exact finish_follows hv hstack h
      · cases h
    · obtain ⟨⟨t, rest⟩, htext, h⟩ := bind_eq_ok_iff.1 h
      obtain ⟨t', htext', ht⟩ := sim.text htext
      rw [htext']
      exact finish_follows (sim.ofText ht) hstack h
    · exact sim.enter (.list .nil) hstack h
    · exact sim.enter (.object .nil) hstack h

theorem stepKey {bytes : List UInt8} (hstack : List.Forall₂ (Frame.Rel R T) stack stack')
    (h : r.stepKey stack bytes = .ok p) : Follows R T p (c.stepKey stack' bytes) := by
  cases bytes with
  | nil => cases h
  | cons b rest =>
    cases hstack with
    | nil => cases h
    | cons hframe hstack =>
      cases hframe with
      | list entries => cases h
      | member entries keys => cases h
      | object entries =>
        simp only [Reading.stepKey] at h ⊢
        split_ifs at h ⊢
        obtain ⟨⟨key, rest⟩, htext, h⟩ := bind_eq_ok_iff.1 h
        obtain ⟨key', htext', hkey⟩ := sim.text htext
        rw [htext']
        simp only [bind, Except.bind] at h ⊢
        split at h
        · cases h
        · next colon rest hrest =>
          split_ifs at h ⊢
          cases h
          exact follows_reading (.cons (.member entries hkey) hstack)

theorem stepMore {bytes : List UInt8} (hstack : List.Forall₂ (Frame.Rel R T) stack stack')
    (h : r.stepMore stack bytes = .ok p) : Follows R T p (c.stepMore stack' bytes) := by
  cases bytes with
  | nil =>
    rcases hstack with _ | ⟨_ | _ | _, _⟩
    all_goals cases h
  | cons b rest =>
    -- Related stacks are open at the same kind of frame, so both look for the same end.
    have hopen := hstack
    rcases hopen with _ | ⟨_ | _ | _, _⟩
    all_goals
      simp only [Reading.stepMore] at h ⊢
      split_ifs at h ⊢
      · cases h
        exact follows_reading hstack
      · exact sim.leave hstack h

/-- The two machines stay related for one lexeme. -/
theorem step {s : Reader ν τ} {s' : Reader ν' τ'} (hs : Reader.Rel R T s s')
    (h : r.step s = .ok p) : Follows R T p (c.step s') := by
  obtain ⟨want, stack, rest⟩ := s
  obtain ⟨want', stack', rest'⟩ := s'
  obtain ⟨hwant, hstack, hrest⟩ := hs
  simp only at hwant hstack hrest
  subst hwant hrest
  simp only [Reading.step] at h ⊢
  generalize skipBlank rest = bytes at h ⊢
  cases want with
  | value => exact sim.stepValue hstack h
  | key => exact sim.stepKey hstack h
  | more => exact sim.stepMore hstack h
  | first =>
    cases bytes with
    | nil => cases h
    | cons b rest =>
      simp only at h ⊢
      split_ifs at h ⊢
      · exact sim.leave hstack h
      · exact sim.stepValue hstack h
  | firstKey =>
    cases bytes with
    | nil => cases h
    | cons b rest =>
      simp only at h ⊢
      split_ifs at h ⊢
      · exact sim.leave hstack h
      · exact sim.stepKey hstack h

/-- The two machines stay related until a value is complete. -/
theorem run {fuel : Nat} {s : Reader ν τ} {s' : Reader ν' τ'} (hs : Reader.Rel R T s s') {v : ν}
    {rest : List UInt8} (h : r.run fuel s = .ok (v, rest)) :
    ∃ v', c.run fuel s' = .ok (v', rest) ∧ R v v' := by
  induction fuel generalizing s s' with
  | zero => cases h
  | succ fuel ih =>
    obtain ⟨p, hp, h⟩ := bind_eq_ok_iff.1 h
    obtain ⟨p', hp', hrel⟩ := sim.step hs hp
    rw [Reading.run, hp']
    cases hrel with
    | done rest values =>
      cases h
      exact ⟨_, rfl, values⟩
    | reading readers => exact ih readers h

/-- Every text that the one reading accepts is accepted by the other, with a related value. -/
theorem read {bytes : List UInt8} {v : ν} (h : r.read bytes = .ok v) :
    ∃ v', c.read bytes = .ok v' ∧ R v v' := by
  obtain ⟨⟨v, rest⟩, hrun, h⟩ := bind_eq_ok_iff.1 h
  have hstart : Reader.Rel R T ⟨.value, [], bytes⟩ ⟨.value, [], bytes⟩ := ⟨rfl, .nil, rfl⟩
  obtain ⟨v', hrun', hv⟩ := sim.run hstart hrun
  rw [Reading.read, hrun']
  simp only [bind, Except.bind] at h ⊢
  split at h
  · cases h
    exact ⟨v', rfl, hv⟩
  · cases h

end Simulates

end Reading

end Json

end QueryConsole
