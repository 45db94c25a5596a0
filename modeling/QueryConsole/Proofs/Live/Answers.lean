import QueryConsole.Proofs.Live.Invariant

/-!
# Answers are shown once

A poller shows an answer when it looks at it, and then rests. So what it shows is made of some of the
outcomes that have arrived for it, each of them once and in the order in which they arrived.

## Main definitions

- `Live.answer?`: the answer of a poller that has not yet looked at it
- `Live.look?`: the answer that a poller is to show when it looks
- `Live.contents`, `Live.outcomes`: what a poller shows, and what arrives for it

## Main results

- `Live.Sound.contents_exec`: every outcome is shown once at most
-/

namespace QueryConsole

namespace Live

variable {renderer : Renderer} {l : Live} {id : Nat}

/-- The answer of a poller that has not yet looked at it. -/
def answer? (l : Live) (id : Nat) : Option Outcome :=
  match l.poller? id with
  | some ⟨_, _, _, .answered outcome⟩ => some outcome
  | _ => none

/-- The answer that a poller is to show when it looks: that of the active subscription only. -/
def look? (l : Live) (id : Nat) : Option Outcome :=
  if l.isActive id then l.answer? id else none

def Event.content? (id : Nat) : Event → Option Presentation
  | .shown i content => if i = id then some content else none
  | .sent _ _ => none

/-- What the poller of a subscription shows. -/
def contents (id : Nat) (events : List Event) : List Presentation :=
  events.filterMap (Event.content? id)

def Move.outcome? (id : Nat) : Move → Option Outcome
  | .receive i outcome => if i = id then some outcome else none
  | _ => none

/-- The outcomes that arrive for the poller of a subscription. -/
def outcomes (id : Nat) (moves : List Move) : List Outcome :=
  moves.filterMap (Move.outcome? id)

theorem answer?_of_poller? {p : Poller} {outcome : Outcome} (hp : l.poller? id = some p)
    (hphase : p.phase = .answered outcome) : l.answer? id = some outcome := by
  obtain ⟨_, _, _, _⟩ := p
  simp only at hphase
  subst hphase
  simp [answer?, hp]

theorem exists_of_answer? {outcome : Outcome} (h : l.answer? id = some outcome) :
    ∃ p ∈ l.pollers, p.id = id ∧ p.phase = .answered outcome := by
  unfold answer? at h
  split at h
  · rename_i hp
    obtain ⟨hmem, hid⟩ := poller?_some hp
    cases h
    exact ⟨_, hmem, hid, rfl⟩
  · cases h

theorem look_events (l : Live) (renderer : Renderer) (id : Nat) : (l.look renderer id).2 =
    ((l.look? id).bind (Outcome.shown renderer)).toList.map (.shown id) := by
  unfold look look? answer?
  cases l.poller? id with
  | none => simp
  | some p =>
    obtain ⟨_, _, _, phase⟩ := p
    cases phase with
    | resting => simp
    | asking => simp
    | answered outcome =>
      cases hshown : outcome.shown renderer with
      | none => cases l.isActive id <;> simp [hshown]
      | some content => cases l.isActive id <;> simp [hshown]

/-- An answer that is not looked at yet was there before, or has just arrived. -/
theorem Sound.answer?_step (h : l.Sound) {m : Move} {outcome : Outcome}
    (ha : (l.step renderer m).1.answer? id = some outcome) :
    l.answer? id = some outcome ∨ m.outcome? id = some outcome := by
  obtain ⟨p, hp, rfl, hphase⟩ := exists_of_answer? ha
  cases h.comes hp with
  | kept hp => exact .inl (answer?_of_poller? (h.poller? hp) hphase)
  | opened hid hrest =>
    rw [hphase] at hrest
    cases hrest
  | asked q hq hid htable hasking now hm hsent =>
    rw [hphase] at hasking
    cases hasking
  | received q hq hid htable hwait outcome' hanswered hm =>
    rw [hphase] at hanswered
    cases hanswered
    exact .inr (by rw [hm]; simp [Move.outcome?])
  | looked q hq hid htable outcome' hwait hrest hreturns hm =>
    rw [hphase] at hrest
    cases hrest

/-- A poller that shows its answer has none any more. -/
theorem Sound.answer?_look (h : l.Sound) {p : Poller} {outcome : Outcome} {content : Presentation}
    (hp : p ∈ l.pollers) (hphase : p.phase = .answered outcome)
    (hshown : outcome.shown renderer = some content) (hactive : l.isActive p.id = true) :
    (l.look renderer p.id).2 = [.shown p.id content] ∧
      (l.look renderer p.id).1.answer? p.id = none := by
  have hanswer : l.answer? p.id = some outcome := answer?_of_poller? (h.poller? hp) hphase
  refine ⟨by simp [look_events, look?, hactive, hanswer, hshown], ?_⟩
  cases hafter : (l.look renderer p.id).1.answer? p.id with
  | none => rfl
  | some outcome' =>
    -- a poller that has looked has no answer
    obtain ⟨r, hr, hid, hanswered⟩ := exists_of_answer? hafter
    obtain ⟨_, _, _, _, _, _, _, he⟩ | ⟨_, _, _, _, _, he⟩ | he := look_cases l renderer p.id
    · rw [he] at hr
      obtain ⟨r', _, rfl⟩ := mem_update.1 hr
      by_cases hr' : r'.id = p.id <;> simp [hr'] at hid hanswered
    · rw [he] at hr
      exact absurd hid (mem_stop.1 hr).2
    · have hevents := look_events l renderer p.id
      rw [he] at hevents
      simp [look?, hactive, hanswer, hshown] at hevents

/-- In one move, what is shown and what is yet to be looked at was there before or has just
arrived. -/
theorem Sound.contents_step (h : l.Sound) (renderer : Renderer) (id : Nat) (m : Move) :
    (contents id (l.step renderer m).2 ++
        ((l.step renderer m).1.answer? id).toList.filterMap (Outcome.shown renderer)).Sublist
      (((l.answer? id).toList ++ (m.outcome? id).toList).filterMap (Outcome.shown renderer)) := by
  cases hshown : contents id (l.step renderer m).2 with
  | nil =>
    cases hafter : (l.step renderer m).1.answer? id with
    | none => exact List.nil_sublist _
    | some outcome =>
      rw [List.nil_append]
      refine List.Sublist.filterMap _ ?_
      obtain hbefore | harrived := h.answer?_step hafter
      · rw [hbefore]
        exact List.sublist_append_left _ _
      · rw [harrived]
        exact List.sublist_append_right _ _
  | cons content rest =>
    have hmem : content ∈ contents id (l.step renderer m).2 := by simp [hshown]
    obtain ⟨e, he, hcontent⟩ := List.mem_filterMap.1 hmem
    cases e with
    | sent i query => cases hcontent
    | shown i content' =>
      obtain ⟨rfl, rfl⟩ : i = id ∧ content' = content := by
        simpa [Event.content?] using hcontent
      obtain ⟨rfl, hactive, p, outcome, hp, rfl, hphase, hreturns⟩ := shown_cases he
      obtain ⟨hevents, hnone⟩ := h.answer?_look hp hphase hreturns hactive
      have hanswer : l.answer? p.id = some outcome := answer?_of_poller? (h.poller? hp) hphase
      have hcontents : contents p.id (l.look renderer p.id).2 = [content'] := by
        rw [hevents]
        simp [contents, Event.content?]
      have hmade : [outcome].filterMap (Outcome.shown renderer) = [content'] := by
        rw [List.filterMap_cons_some hreturns, List.filterMap_nil]
      rw [← hshown, Live.step, hcontents, hnone, hanswer, ← hmade, Option.toList_none,
        List.filterMap_nil, List.append_nil]
      exact List.Sublist.refl _

theorem contents_append (a b : List Event) :
    contents id (a ++ b) = contents id a ++ contents id b :=
  List.filterMap_append

/-- What the poller of a subscription shows in a run are some of the outcomes that arrived for it,
each of them once and in the same order. -/
theorem Sound.contents_exec (h : l.Sound) (renderer : Renderer) (id : Nat) (run : List Move) :
    (contents id (l.exec renderer run).2 ++
        ((l.exec renderer run).1.answer? id).toList.filterMap (Outcome.shown renderer)).Sublist
      (((l.answer? id).toList ++ outcomes id run).filterMap (Outcome.shown renderer)) := by
  induction run generalizing l with
  | nil => simp [Live.exec, contents, outcomes]
  | cons m run ih =>
    have hfirst := h.contents_step renderer id m
    have hlater := ih (h.step renderer m)
    have houtcomes : outcomes id (m :: run) = (m.outcome? id).toList ++ outcomes id run := by
      cases hm : m.outcome? id <;> simp [outcomes, hm]
    rw [houtcomes]
    simp only [Live.exec, contents_append, List.filterMap_append, List.append_assoc]
      at hfirst hlater ⊢
    -- what is not looked at after the first move links the two
    refine (hlater.append_left _).trans ?_
    rw [← List.append_assoc, ← List.append_assoc]
    exact hfirst.append_right _

end Live

end QueryConsole
