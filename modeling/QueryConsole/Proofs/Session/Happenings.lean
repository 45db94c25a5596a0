import QueryConsole.Proofs.Live.Answers
import QueryConsole.Proofs.Session.Panels

/-!
# What happens in a run

A run is looked at from outside: it is known which actions were begun, which query each call sent
last, and what arrives for it. From this alone the reply to every query has its place, and the
updates of the run are exactly those that its happenings ask for, one happening after the other.

## Main definitions

- `Session.asked?`: the query of a call that is not answered yet
- `Session.Run.happenings`: what happens in a run
- `Session.Run.shown`, `Session.Run.answers`, `Session.Run.polls`: the updates of a run, the queries
  answered in it and the outcomes of its polls

## Main results

- `Session.Run.asked?_seen`: the calls that wait are those whose last event is a query
- `Session.Run.shown_eq`: the updates of a run are those of its happenings
- `Session.Run.answered_sublist`: no query is answered that was not sent, and none twice
-/

namespace QueryConsole

namespace Session

/-- The query of a call that is not answered yet. -/
def asked? (events : List Event) (call : Nat) : Option String :=
  (ofCall call events).getLast?.bind Event.query?

namespace Run

variable {renderer : Renderer} {period : Nat} {begun : List Action} {r : Run}

/-! ## Waiting calls -/

/-- A turn leaves its call with a query exactly if the call waits after it. -/
theorem asked?_events (events : List Event) (t : Turn) (call : Nat) (query : String) :
    asked? (events ++ t.events call) call = some query ↔
      ∃ stage, t.progress = .waiting stage ∧ stage.query = query := by
  simp only [asked?, ofCall_append, Turn.ofCall_events]
  unfold Turn.events
  cases t.progress <;> simp [Event.query?]

theorem asked?_append_of_nil {events more : List Event} {call : Nat} (h : ofCall call more = []) :
    asked? (events ++ more) call = asked? events call := by
  rw [asked?, ofCall_append, h, List.append_nil, asked?]

/-- The calls that wait are those whose last event is a query. -/
def Asking (events : List Event) (r : Run) : Prop :=
  ∀ call query, asked? events call = some query ↔
    ∃ stage, ⟨call, stage⟩ ∈ r.pending ∧ stage.query = query

theorem Asking.other {events : List Event} (h : Asking events r) {m : Move} {c : Nat}
    (hbegin : m.action?.isSome → c ≠ r.begun) (hanswer : m.answers c = false) (query : String) :
    asked? (events ++ (r.step m).2) c = some query ↔
      ∃ stage, ⟨c, stage⟩ ∈ (r.step m).1.pending ∧ stage.query = query := by
  obtain ⟨hnone, hpending⟩ := step_other hbegin hanswer
  rw [asked?_append_of_nil hnone, h c query]
  simp only [hpending]

theorem Asking.step {events : List Event} (h : Asking events r) (horderly : Orderly begun r)
    (m : Move) : Asking (events ++ (r.step m).2) (r.step m).1 := by
  intro c query
  cases m with
  | begin now action =>
    by_cases hc : c = r.begun
    · subst hc
      have hfresh : ∀ stage, ⟨r.begun, stage⟩ ∉ r.pending := fun stage hmem =>
        Nat.lt_irrefl _ (horderly.call_lt hmem)
      rw [step_begin, asked?_events]
      simp [Turn.mem_pending, hfresh]
    · exact h.other (fun _ => hc) rfl query
  | answer call outcome =>
    by_cases hc : c = call
    · subst hc
      cases hp : r.pending.find? (·.call == c) with
      | none =>
        rw [step_answer_none hp, List.append_nil]
        exact h c query
      | some p =>
        rw [step_answer hp, asked?_events]
        simp [Turn.mem_pending]
    · exact h.other (fun hbegin => by cases hbegin) (by simpa [Move.answers] using Ne.symm hc) query
  | ask now id => exact h.other (fun hbegin => by cases hbegin) rfl query
  | receive id outcome => exact h.other (fun hbegin => by cases hbegin) rfl query
  | look id => exact h.other (fun hbegin => by cases hbegin) rfl query
  | drop => exact h.other (fun hbegin => by cases hbegin) rfl query

theorem Asking.exec {events : List Event} (h : Asking events r) (horderly : Orderly begun r)
    (moves : List Move) : Asking (events ++ (r.exec moves).2) (r.exec moves).1 := by
  induction moves generalizing r begun events with
  | nil => simpa [Run.exec] using h
  | cons m moves ih =>
    have hrest := ih (h.step horderly m) (horderly.step m)
    rwa [List.append_assoc] at hrest

/-- After a run, the calls that wait are those whose last event is a query. -/
theorem asked?_seen (renderer : Renderer) (period : Nat) (run : List Move) (call : Nat) :
    asked? (seen renderer period run) call =
      ((after renderer period run).pending.find? (·.call == call)).map (·.stage.query) := by
  have hstart : Asking [] (start renderer period) := fun call query => by
    simp [asked?, ofCall, start]
  have hasking : Asking (seen renderer period run) (after renderer period run) :=
    hstart.exec (Orderly.start renderer period) run
  have horderly := (Orderly.start renderer period).exec run
  refine Option.ext fun query => ?_
  rw [hasking call query, Option.map_eq_some_iff]
  constructor
  · rintro ⟨stage, hmem, hquery⟩
    exact ⟨⟨call, stage⟩, horderly.find hmem, hquery⟩
  · rintro ⟨p, hfind, hquery⟩
    obtain ⟨hmem, rfl⟩ := find_some hfind
    exact ⟨p.stage, hmem, hquery⟩

/-! ## Happenings of a run -/

/-- What happens in a move after a run from the beginning. -/
def happening? (renderer : Renderer) (period : Nat) (before : List Move) : Move → Option Happening
  | .begin _ action => action.refusal.map .refused
  | .answer call (.error e) =>
    (asked? (seen renderer period before) call).map fun _ => .unreached e
  | .answer call (.ok reply) =>
    match (actions before)[call]?, asked? (seen renderer period before) call with
    | some action, some query =>
      some (.answered ⟨call, action, query,
        (after renderer period before).session.selection.database, reply⟩)
    | _, _ => none
  | .look id => ((after renderer period before).session.live.look? id).map .polled
  | _ => none

/-- What happens in some moves after a run from the beginning, in order. -/
def happenings (renderer : Renderer) (period : Nat) (before : List Move) :
    List Move → List Happening
  | [] => []
  | m :: rest => (happening? renderer period before m).toList ++
      happenings renderer period (before ++ [m]) rest

/-- The updates of a move are those of what happens in it. -/
theorem updates_step (before : List Move) (m : Move) :
    updates ((after renderer period before).step m).2 =
      (happening? renderer period before m).toList.flatMap (Happening.updates renderer) := by
  have hrenderer : (after renderer period before).session.renderer = renderer :=
    after_renderer before
  cases m with
  | begin now action =>
    rw [step_begin, Turn.updates_events]
    exact (Session.begins _ now action).shown_eq renderer
  | answer call outcome =>
    have hasked := asked?_seen renderer period before call
    cases hp : (after renderer period before).pending.find? (·.call == call) with
    | none =>
      rw [hp] at hasked
      rw [step_answer_none hp]
      cases outcome <;> simp [happening?, hasked, updates]
    | some p =>
      rw [hp] at hasked
      rw [step_answer hp, Turn.updates_events]
      obtain ⟨hmem, rfl⟩ := find_some hp
      -- the call waits in one of its own stages, so its action tells what was asked for
      have horderly := (Orderly.start renderer period).exec before
      obtain ⟨action, k, haction, hstage⟩ := horderly.staged p hmem
      rw [List.nil_append] at haction
      cases outcome with
      | error e => simp [happening?, hasked, Happening.updates, resume, fail]
      | ok reply =>
        have hshown := ((after renderer period before).session.resumes p.stage
          (.ok reply)).shown_eq (Action.hasStage hstage) p.call
        rw [hshown, hrenderer]
        simp [happening?, hasked, haction, Happening.updates]
  | ask now id =>
    obtain ⟨p, hp, hphase, hdue, he⟩ | he :=
      Live.ask_cases (after renderer period before).session.live now id <;>
    simp [step, live, he, updates, Event.update?, Event.ofLive, happening?]
  | receive id outcome => rfl
  | look id =>
    simp only [step, live, hrenderer, Live.look_events, happening?]
    cases (after renderer period before).session.live.look? id with
    | none => rfl
    | some outcome =>
      cases hshown : outcome.shown renderer <;>
        simp [hshown, Happening.updates, updates, Event.update?, Event.ofLive]
  | drop => rfl

theorem updates_exec (before later : List Move) :
    updates ((after renderer period before).exec later).2 =
      (happenings renderer period before later).flatMap (Happening.updates renderer) := by
  induction later generalizing before with
  | nil => rfl
  | cons m later ih =>
    have hnext : ((after renderer period before).step m).1 =
        after renderer period (before ++ [m]) := by
      rw [after_append]
      rfl
    rw [happenings, List.flatMap_append, ← updates_step, ← ih, ← hnext, ← updates_append]
    rfl

/-- What the panels show in a run from the beginning, in order. -/
def shown (renderer : Renderer) (period : Nat) (run : List Move) : List Update :=
  updates (seen renderer period run)

/-- The queries of a run that were answered, in the order in which the replies arrive. -/
def answers (renderer : Renderer) (period : Nat) (run : List Move) : List Answered :=
  (happenings renderer period [] run).filterMap Happening.answered?

/-- The outcomes that pollers of active subscriptions look at in a run, in order. -/
def polls (renderer : Renderer) (period : Nat) (run : List Move) : List Outcome :=
  (happenings renderer period [] run).filterMap Happening.polled?

/-- The updates of a run are those of its happenings, one after another. -/
theorem shown_eq (run : List Move) : shown renderer period run =
    (happenings renderer period [] run).flatMap (Happening.updates renderer) :=
  updates_exec [] run

/-! ## Queries and their answers -/

theorem happenings_append (before a b : List Move) : happenings renderer period before (a ++ b) =
    happenings renderer period before a ++ happenings renderer period (before ++ a) b := by
  induction a generalizing before with
  | nil => simp [happenings]
  | cons m a ih => simp [happenings, ih, List.append_assoc]

theorem answers_append_singleton (run : List Move) (m : Move) :
    answers renderer period (run ++ [m]) = answers renderer period run ++
      ((happening? renderer period run m).bind Happening.answered?).toList := by
  simp only [answers, happenings_append, happenings, List.append_nil, List.nil_append,
    List.filterMap_append]
  cases happening? renderer period run m with
  | none => rfl
  | some what => cases hwhat : what.answered? <;> simp [hwhat]

theorem answers_filterMap_append_singleton {α : Type} (f : Answered → Option α) (run : List Move)
    (m : Move) : (answers renderer period (run ++ [m])).filterMap f =
      (answers renderer period run).filterMap f ++
        (((happening? renderer period run m).bind Happening.answered?).bind f).toList := by
  simp only [answers_append_singleton, List.filterMap_append]
  cases (happening? renderer period run m).bind Happening.answered? with
  | none => rfl
  | some a => cases ha : f a <;> simp [ha]

/-- A move that brings no call an outcome answers nothing. -/
theorem answered?_eq_none {run : List Move} {m : Move} (h : ∀ call, m.answers call = false) :
    (happening? renderer period run m).bind Happening.answered? = none := by
  cases m with
  | begin now action => cases hrefusal : action.refusal <;>
      simp [happening?, hrefusal, Happening.answered?]
  | answer call outcome => simpa [Move.answers] using h call
  | ask now id => rfl
  | receive id outcome => rfl
  | look id => cases hlook : (after renderer period run).session.live.look? id <;>
      simp [happening?, hlook, Happening.answered?]
  | drop => rfl

/-- The queries of a call that were answered in a run, in order. -/
def answered (renderer : Renderer) (period : Nat) (run : List Move) (call : Nat) : List String :=
  ((answers renderer period run).filter (·.call == call)).map Answered.query

theorem answered_append_singleton (run : List Move) (m : Move) (call : Nat) :
    answered renderer period (run ++ [m]) call = answered renderer period run call ++
      (((happening? renderer period run m).bind Happening.answered?).filter
        (·.call == call)).toList.map Answered.query := by
  simp only [answered, answers_append_singleton, List.filter_append, List.map_append]
  cases (happening? renderer period run m).bind Happening.answered? with
  | none => rfl
  | some a => by_cases hcall : a.call = call <;> simp [hcall, Option.filter]

/-- A query is answered when the reply to the last event of its call arrives. -/
theorem eq_of_answered {before : List Move} {m : Move} {a : Answered}
    (h : happening? renderer period before m = some (.answered a)) :
    m = .answer a.call (.ok a.reply) ∧ (actions before)[a.call]? = some a.action ∧
      asked? (seen renderer period before) a.call = some a.query := by
  cases m with
  | begin now action => simp [happening?] at h
  | answer call outcome =>
    cases outcome with
    | error e => simp [happening?] at h
    | ok reply =>
      cases haction : (actions before)[call]? with
      | none => simp [happening?, haction] at h
      | some action =>
        cases hasked : asked? (seen renderer period before) call with
        | none => simp [happening?, haction, hasked] at h
        | some query =>
          simp only [happening?, haction, hasked, Option.some.injEq, Happening.answered.injEq] at h
          subst h
          exact ⟨rfl, haction, hasked⟩
  | ask now id => cases h
  | receive id outcome => cases h
  | look id => simp [happening?] at h
  | drop => cases h

/-- A move answers at most the query that its call sent last, and only if its outcome arrives for
that call. -/
theorem answered_step (renderer : Renderer) (period : Nat) (run : List Move) (m : Move)
    (call : Nat) :
    answered renderer period (run ++ [m]) call = answered renderer period run call ∨
      m.answers call = true ∧ answered renderer period (run ++ [m]) call =
        answered renderer period run call ++ (asked? (seen renderer period run) call).toList := by
  rw [answered_append_singleton]
  cases hwhat : happening? renderer period run m with
  | none => exact .inl (by simp)
  | some what =>
    cases what with
    | answered a =>
      obtain ⟨rfl, _, hasked⟩ := eq_of_answered hwhat
      by_cases hcall : a.call = call
      · subst hcall
        exact .inr ⟨by simp [Move.answers], by simp [hasked, Happening.answered?, Option.filter]⟩
      · exact .inl (by simp [hcall, Happening.answered?, Option.filter])
    | refused reason => exact .inl (by simp [Happening.answered?])
    | unreached e => exact .inl (by simp [Happening.answered?])
    | polled outcome => exact .inl (by simp [Happening.answered?])

theorem asked?_toList_events (events : List Event) (t : Turn) (call : Nat) :
    (asked? (events ++ t.events call) call).toList = queries (t.events call) := by
  simp only [asked?, ofCall_append, Turn.ofCall_events, Turn.queries_events]
  unfold Turn.events Turn.pending
  cases t.progress <;> simp [Event.query?]

theorem seen_append_singleton (run : List Move) (m : Move) :
    seen renderer period (run ++ [m]) =
      seen renderer period run ++ ((after renderer period run).step m).2 := by
  simp [seen, after, exec_append, Run.exec]

/-- A move is a turn of a call, or makes no event of it and brings it no outcome it waits for. -/
theorem turn_or_none (renderer : Renderer) (period : Nat) (run : List Move) (m : Move)
    (call : Nat) :
    (∃ t : Turn, ((after renderer period run).step m).2 = t.events call) ∨
      (ofCall call ((after renderer period run).step m).2 = [] ∧
        (m.answers call = true → asked? (seen renderer period run) call = none)) := by
  cases m with
  | begin now action =>
    by_cases hcall : call = (after renderer period run).begun
    · subst hcall
      exact .inl ⟨_, rfl⟩
    · exact .inr ⟨(step_other (fun _ => hcall) rfl).1, fun h => by cases h⟩
  | answer c outcome =>
    by_cases hcall : c = call
    · subst hcall
      cases hp : (after renderer period run).pending.find? (·.call == c) with
      | none =>
        refine .inr ⟨by rw [step_answer_none hp]; rfl, fun _ => ?_⟩
        rw [asked?_seen, hp]
        rfl
      | some p => exact .inl ⟨_, by rw [step_answer hp]⟩
    · have hanswer : (Move.answer c outcome).answers call = false := by
        simpa [Move.answers] using hcall
      exact .inr ⟨(step_other (fun h => by cases h) hanswer).1, fun h => by simp [hanswer] at h⟩
  | ask now id => exact .inr ⟨ofCall_ofLive call _, fun h => by cases h⟩
  | receive id outcome => exact .inr ⟨rfl, fun h => by cases h⟩
  | look id => exact .inr ⟨ofCall_ofLive call _, fun h => by cases h⟩
  | drop => exact .inr ⟨rfl, fun h => by cases h⟩

/-- No query is answered that its call has not sent, and none twice: the answered queries of a call,
with the one that is not answered yet, are among those it sent, in the same order. -/
theorem answered_sublist (run : List Move) (call : Nat) :
    (answered renderer period run call ++ (asked? (seen renderer period run) call).toList).Sublist
      (queries (ofCall call (seen renderer period run))) := by
  induction run using List.reverseRecOn with
  | nil => exact List.Sublist.refl []
  | append_singleton run m ih =>
    have hstep := answered_step renderer period run m call
    rw [seen_append_singleton]
    obtain ⟨t, hturn⟩ | ⟨hnone, hidle⟩ := turn_or_none renderer period run m call
    · -- the call gets at most the answer that was open, and sends what its turn sends
      rw [hturn, asked?_toList_events, ofCall_append, queries_append, Turn.ofCall_events]
      refine List.Sublist.append (List.Sublist.trans ?_ ih) (List.Sublist.refl _)
      obtain hsame | ⟨_, hmore⟩ := hstep
      · rw [hsame]
        exact List.sublist_append_left _ _
      · rw [hmore]
    · -- nothing of the call happens
      have hsame : answered renderer period (run ++ [m]) call =
          answered renderer period run call := by
        obtain hsame | ⟨hanswers, hmore⟩ := hstep
        · exact hsame
        · simpa [hidle hanswers] using hmore
      rw [hsame, asked?_append_of_nil hnone, ofCall_append, hnone, List.append_nil]
      exact ih

end Run

end Session

end QueryConsole
