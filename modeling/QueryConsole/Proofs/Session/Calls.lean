import Mathlib.Data.List.Nodup
import QueryConsole.Proofs.Session.Turn

/-!
# The calls of a run

Calls are numbered in the order in which they are begun. Each of them waits at most once at a time,
in one of its own stages, and makes its events only when it is begun and when an outcome arrives
for it.

## Main definitions

- `Session.actions`: the actions of the calls begun in a run
- `Session.updates`, `Session.results`, `Session.queries`: the updates, the results and the queries
  among events
- `Session.ofCall`: the events of a call
- `Session.Run.seen`: the events of a run from its beginning
- `Session.Run.Orderly`: how the calls that wait fit those that were begun

## Main results

- `Session.Run.Orderly.exec`: every run is orderly
- `Session.Run.step_other`: a move that does not concern a call makes no event of it
-/

namespace QueryConsole

namespace Session

/-! ## Events -/

def Event.update? : Event → Option Update
  | .shown _ panel content => some (panel, content)
  | _ => none

def Event.result? : Event → Option (Except Error Value)
  | .finished _ result => some result
  | _ => none

/-- Whether a call makes an event. -/
def Event.isOf (call : Nat) : Event → Bool
  | .sent origin _ => origin == .call call
  | .shown origin _ _ => origin == .call call
  | .finished c _ => c == call
  | .broken c => c == call

def Event.query? : Event → Option String
  | .sent _ query => some query
  | _ => none

/-- The updates among events, in order. -/
def updates (events : List Event) : List Update :=
  events.filterMap Event.update?

/-- The results among events, in order. -/
def results (events : List Event) : List (Except Error Value) :=
  events.filterMap Event.result?

/-- The queries among events, in order. -/
def queries (events : List Event) : List String :=
  events.filterMap Event.query?

/-- The events of a call, in order. -/
def ofCall (call : Nat) (events : List Event) : List Event :=
  events.filter (Event.isOf call)

@[simp] theorem updates_append (a b : List Event) : updates (a ++ b) = updates a ++ updates b :=
  List.filterMap_append

@[simp] theorem results_append (a b : List Event) : results (a ++ b) = results a ++ results b :=
  List.filterMap_append

@[simp] theorem queries_append (a b : List Event) : queries (a ++ b) = queries a ++ queries b :=
  List.filterMap_append

@[simp] theorem ofCall_append (call : Nat) (a b : List Event) :
    ofCall call (a ++ b) = ofCall call a ++ ofCall call b :=
  List.filter_append a b

namespace Turn

variable (t : Turn) (call : Nat)

@[simp] theorem updates_events : updates (t.events call) = t.shown := by
  unfold Turn.events
  cases t.progress <;>
    simp [updates, List.filterMap_map, Function.comp_def, Event.update?]

/-- A turn in which a call waits or breaks has no result, and one in which it finishes has that
one. -/
theorem results_events : results (t.events call) =
    match t.progress with
    | .finished result => [result]
    | .waiting _ | .broken => [] := by
  unfold Turn.events
  cases t.progress <;>
    simp [results, List.filterMap_map, Function.comp_def, Event.result?]

/-- A turn sends the query of the stage in which the call waits. -/
theorem queries_events : queries (t.events call) = (t.pending call).map (·.stage.query) := by
  unfold Turn.events Turn.pending
  cases t.progress <;>
    simp [queries, List.filterMap_map, Function.comp_def, Event.query?]

theorem isOf_of_mem_events {e : Event} (h : e ∈ t.events call) (c : Nat) :
    e.isOf c = (call == c) := by
  unfold Turn.events at h
  obtain h | h := List.mem_append.1 h
  · obtain ⟨u, _, rfl⟩ := List.mem_map.1 h
    by_cases hc : call = c <;> simp [Event.isOf, hc]
  · cases hp : t.progress with
    | finished result =>
      rw [hp] at h
      rw [List.mem_singleton.1 h]
      rfl
    | waiting stage =>
      rw [hp] at h
      rw [List.mem_singleton.1 h]
      by_cases hc : call = c <;> simp [Event.isOf, hc]
    | broken =>
      rw [hp] at h
      rw [List.mem_singleton.1 h]
      rfl

@[simp] theorem ofCall_events : ofCall call (t.events call) = t.events call := by
  refine List.filter_eq_self.2 fun e he => ?_
  simp [t.isOf_of_mem_events call he]

theorem ofCall_events_of_ne {c : Nat} (h : c ≠ call) : ofCall c (t.events call) = [] := by
  refine List.filter_eq_nil_iff.2 fun e he => ?_
  simpa [t.isOf_of_mem_events call he] using h.symm

theorem mem_pending {p : Pending} :
    p ∈ t.pending call ↔ ∃ stage, t.progress = .waiting stage ∧ p = ⟨call, stage⟩ := by
  unfold Turn.pending
  cases t.progress <;> simp

/-- A call that does not go on to wait is over. -/
theorem pending_eq_nil (h : ∀ stage, t.progress ≠ .waiting stage) : t.pending call = [] := by
  refine List.eq_nil_iff_forall_not_mem.2 fun p hp => ?_
  obtain ⟨stage, hwaits, _⟩ := (t.mem_pending call).1 hp
  exact h stage hwaits

end Turn

/-- Pollers make no events of calls. -/
@[simp] theorem ofCall_ofLive (call : Nat) (events : List Live.Event) :
    ofCall call (events.map Event.ofLive) = [] := by
  refine List.filter_eq_nil_iff.2 fun e he => ?_
  obtain ⟨l, _, rfl⟩ := List.mem_map.1 he
  cases l <;> simp [Event.ofLive, Event.isOf]

/-! ## The calls that were begun -/

/-- The action with which a move begins a call. -/
def Move.action? : Move → Option Action
  | .begin _ action => some action
  | _ => none

/-- The actions of the calls that are begun in a run, by their numbers. -/
def actions (moves : List Move) : List Action :=
  moves.filterMap Move.action?

/-- Whether an outcome arrives for a call. -/
def Move.answers (call : Nat) : Move → Bool
  | .answer c _ => c == call
  | _ => false

@[simp] theorem actions_nil : actions [] = [] := rfl

theorem actions_append (a b : List Move) : actions (a ++ b) = actions a ++ actions b :=
  List.filterMap_append

theorem actions_cons (m : Move) (moves : List Move) :
    actions (m :: moves) = m.action?.toList ++ actions moves := by
  cases h : m.action? <;> simp [actions, h]

namespace Run

variable {r : Run} {begun : List Action}

/-- All that can be seen of a run from its beginning. -/
def seen (renderer : Renderer) (period : Nat) (run : List Move) : List Event :=
  ((start renderer period).exec run).2

/-- How the calls that wait fit those that were begun: no call waits twice, and each of them in one
of its own stages. -/
structure Orderly (begun : List Action) (r : Run) : Prop where
  counted : r.begun = begun.length
  distinct : (r.pending.map Pending.call).Nodup
  staged : ∀ p ∈ r.pending, ∃ (action : Action) (k : Nat), begun[p.call]? = some action ∧
    action.stages[k]? = some p.stage

theorem Orderly.start (renderer : Renderer) (period : Nat) :
    Orderly [] (start renderer period) where
  counted := rfl
  distinct := List.nodup_nil
  staged p hp := by cases hp

theorem Orderly.call_lt (h : Orderly begun r) {p : Pending} (hp : p ∈ r.pending) :
    p.call < r.begun := by
  obtain ⟨action, k, haction, _⟩ := h.staged p hp
  rw [h.counted]
  exact (List.getElem?_eq_some_iff.1 haction).1

theorem Orderly.eq_of_call (h : Orderly begun r) {p q : Pending} (hp : p ∈ r.pending)
    (hq : q ∈ r.pending) (hcall : p.call = q.call) : p = q :=
  List.inj_on_of_nodup_map h.distinct hp hq hcall

theorem Orderly.find (h : Orderly begun r) {p : Pending} (hp : p ∈ r.pending) :
    r.pending.find? (·.call == p.call) = some p := by
  cases hfind : r.pending.find? (·.call == p.call) with
  | none =>
    have hnone := List.find?_eq_none.1 hfind p hp
    simp at hnone
  | some q =>
    have hcall : q.call = p.call := by simpa using List.find?_some hfind
    rw [h.eq_of_call (List.mem_of_find?_eq_some hfind) hp hcall]

theorem find_some {call : Nat} {p : Pending} (h : r.pending.find? (·.call == call) = some p) :
    p ∈ r.pending ∧ p.call = call :=
  ⟨List.mem_of_find?_eq_some h, by simpa using List.find?_some h⟩

theorem find_none {call : Nat} (hidle : ∀ stage, ⟨call, stage⟩ ∉ r.pending) :
    r.pending.find? (·.call == call) = none := by
  refine List.find?_eq_none.2 fun p hp hcall => ?_
  obtain rfl : p.call = call := by simpa using hcall
  exact hidle p.stage hp

/-! ## One move -/

theorem step_begin (r : Run) (now : Nat) (action : Action) :
    r.step (.begin now action) =
      (⟨(r.session.begin now action).session, r.begun + 1,
        r.pending ++ (r.session.begin now action).pending r.begun⟩,
        (r.session.begin now action).events r.begun) := rfl

theorem step_answer {call : Nat} {p : Pending} (h : r.pending.find? (·.call == call) = some p)
    (outcome : Outcome) :
    r.step (.answer call outcome) =
      (⟨(r.session.resume p.stage outcome).session, r.begun,
        r.pending.filter (·.call != call) ++ (r.session.resume p.stage outcome).pending call⟩,
        (r.session.resume p.stage outcome).events call) := by
  simp only [step, h]

theorem step_answer_none {call : Nat} (h : r.pending.find? (·.call == call) = none)
    (outcome : Outcome) : r.step (.answer call outcome) = (r, []) := by
  simp only [step, h]

/-- A move that neither begins a call nor brings it an outcome leaves it as it is. -/
theorem step_other {c : Nat} {m : Move} (hbegin : m.action?.isSome → c ≠ r.begun)
    (hanswer : m.answers c = false) :
    ofCall c (r.step m).2 = [] ∧
      ∀ stage, ⟨c, stage⟩ ∈ (r.step m).1.pending ↔ ⟨c, stage⟩ ∈ r.pending := by
  cases m with
  | begin now action =>
    rw [step_begin]
    refine ⟨Turn.ofCall_events_of_ne _ _ (hbegin rfl), fun stage => ?_⟩
    simp [Turn.mem_pending, hbegin rfl]
  | answer call outcome =>
    have hne : c ≠ call := by
      rintro rfl
      simp [Move.answers] at hanswer
    cases hp : r.pending.find? (·.call == call) with
    | none => simp [step_answer_none hp, ofCall]
    | some p =>
      rw [step_answer hp]
      refine ⟨Turn.ofCall_events_of_ne _ _ hne, fun stage => ?_⟩
      simp [Turn.mem_pending, hne]
  | ask now id => exact ⟨ofCall_ofLive c _, fun _ => Iff.rfl⟩
  | receive id outcome => exact ⟨rfl, fun _ => Iff.rfl⟩
  | look id => exact ⟨ofCall_ofLive c _, fun _ => Iff.rfl⟩
  | drop => exact ⟨rfl, fun _ => Iff.rfl⟩

theorem Orderly.begin (h : Orderly begun r) (now : Nat) (action : Action) :
    Orderly (begun ++ [action]) (r.step (.begin now action)).1 where
  counted := by simp [step_begin, h.counted]
  distinct := by
    simp only [step_begin, List.map_append]
    refine List.nodup_append.2 ⟨h.distinct, ?_, ?_⟩
    · unfold Turn.pending
      cases (r.session.begin now action).progress <;> simp
    · intro a ha b hb
      obtain ⟨p, hp, rfl⟩ := List.mem_map.1 ha
      obtain ⟨q, hq, rfl⟩ := List.mem_map.1 hb
      obtain ⟨stage, _, rfl⟩ := (Turn.mem_pending _ _).1 hq
      exact Nat.ne_of_lt (h.call_lt hp)
  staged p hp := by
    obtain hp | hp := List.mem_append.1 hp
    · obtain ⟨earlier, k, hearlier, hstage⟩ := h.staged p hp
      have hlt : p.call < begun.length := (List.getElem?_eq_some_iff.1 hearlier).1
      exact ⟨earlier, k, by rw [List.getElem?_append_left hlt, hearlier], hstage⟩
    · obtain ⟨stage, hwaits, rfl⟩ := (Turn.mem_pending _ _).1 hp
      refine ⟨action, 0, ?_, (r.session.begins now action).stage_eq hwaits⟩
      simp [h.counted]

theorem Orderly.answer (h : Orderly begun r) (call : Nat) (outcome : Outcome) :
    Orderly begun (r.step (.answer call outcome)).1 := by
  cases hp : r.pending.find? (·.call == call) with
  | none =>
    rw [step_answer_none hp]
    exact h
  | some p =>
    rw [step_answer hp]
    obtain ⟨hmem, rfl⟩ := find_some hp
    refine ⟨h.counted, ?_, ?_⟩
    · simp only [List.map_append]
      refine List.nodup_append.2 ⟨h.distinct.sublist (List.filter_sublist.map _), ?_, ?_⟩
      · unfold Turn.pending
        cases (r.session.resume p.stage outcome).progress <;> simp
      · intro a ha b hb
        obtain ⟨q, hq, rfl⟩ := List.mem_map.1 ha
        obtain ⟨q', hq', rfl⟩ := List.mem_map.1 hb
        obtain ⟨stage, _, rfl⟩ := (Turn.mem_pending _ _).1 hq'
        simpa using (List.mem_filter.1 hq).2
    · intro q hq
      obtain hq | hq := List.mem_append.1 hq
      · exact h.staged q (List.mem_filter.1 hq).1
      · obtain ⟨stage, hwaits, rfl⟩ := (Turn.mem_pending _ _).1 hq
        obtain ⟨action, k, haction, hstage⟩ := h.staged p hmem
        exact ⟨action, k + 1, haction,
          (r.session.resumes p.stage outcome).stage_eq hwaits hstage⟩

theorem Orderly.step (h : Orderly begun r) (m : Move) :
    Orderly (begun ++ m.action?.toList) (r.step m).1 := by
  cases m with
  | begin now action => exact h.begin now action
  | answer call outcome => exact (List.append_nil begun).symm ▸ h.answer call outcome
  | ask now id => exact (List.append_nil begun).symm ▸ ⟨h.counted, h.distinct, h.staged⟩
  | receive id outcome => exact (List.append_nil begun).symm ▸ ⟨h.counted, h.distinct, h.staged⟩
  | look id => exact (List.append_nil begun).symm ▸ ⟨h.counted, h.distinct, h.staged⟩
  | drop => exact (List.append_nil begun).symm ▸ ⟨h.counted, h.distinct, h.staged⟩

/-- Every run is orderly. -/
theorem Orderly.exec (h : Orderly begun r) (moves : List Move) :
    Orderly (begun ++ actions moves) (r.exec moves).1 := by
  induction moves generalizing r begun with
  | nil => simpa [Run.exec] using h
  | cons m moves ih =>
    have hrest := ih (h.step m)
    rwa [List.append_assoc, ← actions_cons] at hrest

/-! ## Calls that were not begun -/

theorem begun_le_step (r : Run) (m : Move) : r.begun ≤ (r.step m).1.begun := by
  cases m with
  | begin now action => exact Nat.le_succ _
  | answer call outcome =>
    cases hp : r.pending.find? (·.call == call) with
    | none => exact Nat.le_of_eq (by rw [step_answer_none hp])
    | some p => exact Nat.le_of_eq (by rw [step_answer hp])
  | ask now id => exact Nat.le_refl _
  | receive id outcome => exact Nat.le_refl _
  | look id => exact Nat.le_refl _
  | drop => exact Nat.le_refl _

theorem begun_le_exec (r : Run) (moves : List Move) : r.begun ≤ (r.exec moves).1.begun := by
  induction moves generalizing r with
  | nil => exact Nat.le_refl _
  | cons m moves ih => exact Nat.le_trans (begun_le_step r m) (ih (r.step m).1)

/-- A call that has not been begun after a move makes no event in it. -/
theorem Orderly.ofCall_step (h : Orderly begun r) {m : Move} {c : Nat}
    (hc : (r.step m).1.begun ≤ c) : ofCall c (r.step m).2 = [] := by
  cases m with
  | begin now action => exact Turn.ofCall_events_of_ne _ _ (Nat.ne_of_gt hc)
  | answer call outcome =>
    cases hp : r.pending.find? (·.call == call) with
    | none =>
      rw [step_answer_none hp]
      rfl
    | some p =>
      rw [step_answer hp] at hc ⊢
      obtain ⟨hmem, rfl⟩ := find_some hp
      exact Turn.ofCall_events_of_ne _ _ (Nat.ne_of_gt (Nat.lt_of_lt_of_le (h.call_lt hmem) hc))
  | ask now id => exact ofCall_ofLive c _
  | receive id outcome => rfl
  | look id => exact ofCall_ofLive c _
  | drop => rfl

/-- A call that has not been begun in a run has made no event. -/
theorem Orderly.ofCall_exec (h : Orderly begun r) {moves : List Move} {c : Nat}
    (hc : (r.exec moves).1.begun ≤ c) : ofCall c (r.exec moves).2 = [] := by
  induction moves generalizing r begun with
  | nil => rfl
  | cons m moves ih =>
    have hstep : (r.step m).1.begun ≤ c := Nat.le_trans (begun_le_exec _ moves) hc
    simp only [Run.exec, ofCall_append]
    rw [h.ofCall_step hstep, ih (h.step m) hc, List.append_nil]

end Run

end Session

end QueryConsole
