import QueryConsole.Proofs.Session.Calls
import QueryConsole.Proofs.Session.LivePanel

/-!
# Every failure is shown once

A call shows nothing as long as it waits, and all it shows in its last turn. If it fails, the last
update is an error and the only one; otherwise none is. The operator's own queries are different:
the outcome of the query is shown whatever it is, and only a query that never got an answer fails.

## Main definitions

- `Session.FailureShown`, `Session.OutcomeShown`: what a call shows for its result
- `Session.Accounted`: which of them counts for which action
- `Session.Run.Stands`: how a call stands that got so many outcomes

## Main results

- `Session.Run.Stands.step`: how a call stands after one more move
- `every_failure_shown_once`: what each call of a run has shown, and that it ends
-/

namespace QueryConsole

namespace Session

/-- A call that fails shows one error, as its last update; one that succeeds shows no error. -/
structure FailureShown (shown : List Update) (result : Except Error Value) : Prop where
  failed : (∃ e, result = .error e) ↔
    (shown.filter fun u => u.2.isError).length = 1 ∧
      ∃ u, shown.getLast? = some u ∧ u.2.isError = true
  succeeded : ∀ value, result = .ok value → ∀ u ∈ shown, u.2.isError = false

/-- A query that fails shows one message and no results; one that succeeds shows its results and
nothing else. -/
structure OutcomeShown (shown : List Update) (result : Except Error Value) : Prop where
  failed : ∀ e, result = .error e → ∃ message, shown = [(.notice, .error message)]
  succeeded : ∀ value, result = .ok value → ∃ content, shown = [(.results, content)]

/-- What the updates of a call that ended owe to its result. -/
def Accounted : Action → List Update → Except Error Value → Prop
  | .query _, shown, result => OutcomeShown shown result
  | _, shown, result => FailureShown shown result

/-! ## Updates of one turn -/

theorem FailureShown.of_error {panel : Panel} {message : String} {e : Error} :
    FailureShown [(panel, .error message)] (.error e) where
  failed := by simp [Presentation.isError]
  succeeded value h := by cases h

theorem FailureShown.of_ok {shown : List Update} {value : Value}
    (h : ∀ u ∈ shown, u.2.isError = false) : FailureShown shown (.ok value) where
  failed := by
    refine iff_of_false (fun ⟨e, he⟩ => by cases he) ?_
    rintro ⟨_, u, hlast, herror⟩
    rw [h u (List.mem_of_getLast? hlast)] at herror
    cases herror
  succeeded _ _ := h

theorem OutcomeShown.of_error {message : String} {e : Error} :
    OutcomeShown [(.notice, .error message)] (.error e) where
  failed _ _ := ⟨message, rfl⟩
  succeeded value h := by cases h

/-- An error in the notice panel accounts for any failure. -/
theorem Accounted.of_notice {action : Action} {message : String} {e : Error} :
    Accounted action [(.notice, .error message)] (.error e) := by
  cases action with
  | query text => exact .of_error
  | _ => exact .of_error

variable {s : Session} {now : Nat} {action : Action} {stage : Stage} {outcome : Outcome}
  {t : Turn} {result : Except Error Value}

theorem Begins.accounted (h : Begins s now action t) (hend : t.progress = .finished result) :
    Accounted action t.shown result := by
  cases h with
  | rejected hrefusal =>
    cases hend
    exact .of_notice
  | waits hrefusal hstage => cases hend
  | selects hvalid =>
    cases hend
    exact FailureShown.of_ok (by simp [done])
  | enters =>
    cases hend
    exact FailureShown.of_ok (by simp [done])
  | closes =>
    cases hend
    exact FailureShown.of_ok (by simp [done])

/-- Queries wait for the answer to a statement of the operator's own, and no other call does. -/
theorem accounted_of_failureShown (hstage : action.HasStage stage)
    (hanswer : ∀ text, stage ≠ .answer text) {shown : List Update}
    (h : FailureShown shown result) : Accounted action shown result := by
  cases hstage with
  | answer => exact absurd rfl (hanswer _)
  | _ => exact h

theorem Resumes.accounted (h : Resumes s stage outcome t) (hend : t.progress = .finished result)
    (hstage : action.HasStage stage) : Accounted action t.shown result := by
  cases h with
  | unanswered =>
    cases hend
    exact .of_notice
  | answered hrender =>
    cases hend
    cases hstage with
    | answer => exact ⟨fun _ h => (by cases h), fun _ _ => ⟨_, rfl⟩⟩
  | broken hrender => cases hend
  | reported hanswer hlisting =>
    cases hend
    exact .of_notice
  | created haccepted => cases hend
  | listed =>
    cases hend
    exact accounted_of_failureShown hstage (by simp)
      (.of_ok (by simp [done, Presentation.isError]))
  | undrawn hdrawn =>
    cases hend
    exact accounted_of_failureShown hstage (by simp) .of_error
  | changed haccepted => cases hend
  | named hnames =>
    cases hend
    exact accounted_of_failureShown hstage (by simp)
      (.of_ok (by simp [done, Presentation.isError]))

/-! ## How a call stands -/

namespace Run

variable {r : Run} {begun : List Action} {call : Nat} {heard : List Move} {events : List Event}

/-- How a call stands that was begun with an action, when the listed outcomes have arrived for it
and it has made the listed events. -/
inductive Stands (action : Action) (call : Nat) (r : Run) (heard : List Move)
    (events : List Event) : Prop
  /-- it waits in its next stage and has shown nothing -/
  | waits (stage : Stage) (hpending : ⟨call, stage⟩ ∈ r.pending)
    (hstage : action.stages[heard.length]? = some stage) (hshown : updates events = [])
    (hresults : results events = [])
  /-- it is a query, and the renderer has not returned for the reply to it -/
  | broken (hquery : ∃ text, action = .query text) (hidle : ∀ stage, ⟨call, stage⟩ ∉ r.pending)
    (hheard : ∃ reply, heard.head? = some (.answer call (.ok reply)) ∧
      r.session.renderer.render reply = none)
    (hshown : updates events = []) (hresults : results events = [])
  /-- it is over -/
  | ended (result : Except Error Value) (hidle : ∀ stage, ⟨call, stage⟩ ∉ r.pending)
    (hshown : Accounted action (updates events) result) (hresults : results events = [result])

theorem Stands.begin (h : Orderly begun r) (now : Nat) (action : Action) :
    Stands action r.begun (r.step (.begin now action)).1 []
      (ofCall r.begun (r.step (.begin now action)).2) := by
  have hturn := r.session.begins now action
  rw [step_begin, Turn.ofCall_events]
  cases hp : (r.session.begin now action).progress with
  | waiting stage =>
    refine .waits stage ?_ (hturn.stage_eq hp) ?_ ?_
    · exact List.mem_append_right _ ((Turn.mem_pending _ _).2 ⟨stage, hp, rfl⟩)
    · rw [Turn.updates_events, hturn.shown_eq_nil hp]
    · rw [Turn.results_events, hp]
  | broken => exact absurd hp hturn.not_broken
  | finished result =>
    refine .ended result ?_ ?_ ?_
    · intro stage hmem
      simp only [(r.session.begin now action).pending_eq_nil _ (by simp [hp]),
        List.append_nil] at hmem
      exact Nat.lt_irrefl _ (h.call_lt hmem)
    · rw [Turn.updates_events]
      exact hturn.accounted hp
    · rw [Turn.results_events, hp]

/-- An outcome that arrives for a call that waits makes it end, break or wait in its next stage. -/
theorem Stands.answer (h : Orderly begun r) {stage : Stage}
    (hpending : ⟨call, stage⟩ ∈ r.pending) (hstage : action.stages[heard.length]? = some stage)
    (hshown : updates events = []) (hresults : results events = []) (outcome : Outcome) :
    Stands action call (r.step (.answer call outcome)).1 (heard ++ [.answer call outcome])
      (events ++ ofCall call (r.step (.answer call outcome)).2) := by
  have hturn := r.session.resumes stage outcome
  rw [step_answer (h.find hpending), Turn.ofCall_events]
  cases hp : (r.session.resume stage outcome).progress with
  | waiting next =>
    refine .waits next ?_ ?_ ?_ ?_
    · exact List.mem_append_right _ ((Turn.mem_pending _ _).2 ⟨next, hp, rfl⟩)
    · rw [List.length_append]
      exact hturn.stage_eq hp hstage
    · rw [updates_append, hshown, Turn.updates_events, hturn.shown_eq_nil hp, List.append_nil]
    · rw [results_append, hresults, Turn.results_events, hp, List.append_nil]
  | broken =>
    obtain ⟨text, reply, rfl, rfl, hrender, hturn⟩ := hturn.of_broken hp
    obtain ⟨hfirst, hquery⟩ := Action.eq_query_of_answer hstage
    obtain rfl : heard = [] := List.length_eq_zero_iff.1 hfirst
    rw [hturn]
    refine .broken hquery ?_ ⟨reply, rfl, hrender⟩ ?_ ?_
    · intro s hmem
      simp [Turn.pending] at hmem
    · rw [updates_append, hshown, Turn.updates_events, List.append_nil]
    · rw [results_append, hresults, Turn.results_events, List.append_nil]
  | finished result =>
    refine .ended result ?_ ?_ ?_
    · intro s hmem
      simp only [(r.session.resume stage outcome).pending_eq_nil _ (by simp [hp]),
        List.append_nil] at hmem
      simpa using (List.mem_filter.1 hmem).2
    · rw [updates_append, hshown, Turn.updates_events, List.nil_append]
      exact hturn.accounted hp (Action.hasStage hstage)
    · rw [results_append, hresults, Turn.results_events, hp, List.nil_append]

/-- How a call stands after one more move: only an outcome that arrives for it matters. -/
theorem Stands.step (h : Orderly begun r) (hbegun : call < r.begun)
    (hs : Stands action call r heard events) (m : Move) :
    Stands action call (r.step m).1 (heard ++ [m].filter (Move.answers call))
      (events ++ ofCall call (r.step m).2) := by
  cases hanswer : m.answers call with
  | false =>
    -- the move makes no event of the call and leaves it where it waits
    obtain ⟨hnone, hpending⟩ := step_other (fun _ => Nat.ne_of_lt hbegun) hanswer
    have hsilent : [m].filter (Move.answers call) = [] := by simp [hanswer]
    rw [hnone, hsilent, List.append_nil, List.append_nil]
    cases hs with
    | waits stage hwaits hstage hshown hresults =>
      exact .waits stage ((hpending stage).2 hwaits) hstage hshown hresults
    | broken hquery hidle hheard hshown hresults =>
      refine .broken hquery (fun stage hmem => hidle stage ((hpending stage).1 hmem)) ?_ hshown
        hresults
      rwa [(r.step_session m).2]
    | ended result hidle hshown hresults =>
      exact .ended result (fun stage hmem => hidle stage ((hpending stage).1 hmem)) hshown hresults
  | true =>
    cases m with
    | answer c outcome =>
      obtain rfl : c = call := by simpa [Move.answers] using hanswer
      have hheard : [Move.answer c outcome].filter (Move.answers c) = [.answer c outcome] := by
        simp [hanswer]
      rw [hheard]
      cases hs with
      | waits stage hwaits hstage hshown hresults =>
        exact Stands.answer h hwaits hstage hshown hresults outcome
      -- an outcome for a call that is over finds nobody who waits for it
      | broken hquery hidle hheard hshown hresults =>
        obtain ⟨reply, hfirst, hrender⟩ := hheard
        rw [step_answer_none (find_none hidle), show ofCall c [] = [] from rfl, List.append_nil]
        refine .broken hquery hidle ⟨reply, ?_, hrender⟩ hshown hresults
        rw [List.head?_append, hfirst]
        rfl
      | ended result hidle hshown hresults =>
        rw [step_answer_none (find_none hidle), show ofCall c [] = [] from rfl, List.append_nil]
        exact .ended result hidle hshown hresults
    | begin now action => cases hanswer
    | ask now id => cases hanswer
    | receive id outcome => cases hanswer
    | look id => cases hanswer
    | drop => cases hanswer

/-- How a call stands after a run. -/
theorem Stands.exec (h : Orderly begun r) (hbegun : call < r.begun)
    (hs : Stands action call r heard events) (moves : List Move) :
    Stands action call (r.exec moves).1 (heard ++ moves.filter (Move.answers call))
      (events ++ ofCall call (r.exec moves).2) := by
  induction moves generalizing r begun heard events with
  | nil => simpa [Run.exec, ofCall] using hs
  | cons m moves ih =>
    have hlt : call < (r.step m).1.begun := Nat.lt_of_lt_of_le hbegun (begun_le_step r m)
    have hrest := ih (h.step m) hlt (hs.step h hbegun m)
    simp only [Run.exec, ofCall_append]
    rw [List.append_assoc, List.append_assoc] at hrest
    rw [← List.singleton_append, List.filter_append]
    exact hrest

/-- How a call of a run stands, by the outcomes that have arrived since it was begun. -/
theorem stands_after (renderer : Renderer) (period : Nat) (before later : List Move) (now : Nat)
    (action : Action) :
    Stands action (after renderer period before).begun
      (after renderer period (before ++ .begin now action :: later))
      (later.filter (Move.answers (after renderer period before).begun))
      (ofCall (after renderer period before).begun
        (seen renderer period (before ++ .begin now action :: later))) := by
  have hbefore := (Orderly.start renderer period).exec before
  have hbegin := Stands.begin hbefore now action
  have hlater := hbegin.exec (hbefore.step (.begin now action)) (Nat.lt_succ_self _) later
  rw [List.nil_append] at hlater
  have hunbegun := (Orderly.start renderer period).ofCall_exec
    (Nat.le_refl (after renderer period before).begun)
  rw [seen, after_append, exec_append, ofCall_append, hunbegun, List.nil_append]
  simp only [Run.exec, ofCall_append]
  exact hlater

end Run

end Session

/-- What each call of a run has shown, whatever its action, whatever the outcomes of its queries and
whatever else goes on in the session. As long as it has not ended it has shown nothing, and it ends
at the latest when an outcome has arrived for each query that it can send. It ends with one result.
A query that fails has shown one message and no results, and one that succeeds its results only. Any
other call has failed exactly when one of its updates is an error and this is the last one; if it
has succeeded, it has shown no error. Only a query may never end after its outcome has arrived: the
renderer does not return for the reply, and nothing is shown. -/
theorem every_failure_shown_once (renderer : Renderer) (period : Nat)
    (before later : List Session.Move) (now : Nat) (action : Session.Action) :
    let call := (Session.Run.after renderer period before).begun
    let events := Session.ofCall call
      (Session.Run.seen renderer period (before ++ .begin now action :: later))
    (later.countP (Session.Move.answers call) < action.stages.length ∧
        Session.updates events = [] ∧ Session.results events = []) ∨
      (∃ result, Session.results events = [result] ∧
        Session.Accounted action (Session.updates events) result) ∨
      (∃ text reply, action = .query text ∧
        later.find? (Session.Move.answers call) = some (.answer call (.ok reply)) ∧
        renderer.render reply = none ∧
        Session.updates events = [] ∧ Session.results events = []) := by
  intro call events
  cases Session.Run.stands_after renderer period before later now action with
  | waits stage hpending hstage hshown hresults =>
    have hlt := (List.getElem?_eq_some_iff.1 hstage).1
    rw [← List.countP_eq_length_filter] at hlt
    exact .inl ⟨hlt, hshown, hresults⟩
  | ended result hidle hshown hresults => exact .inr (.inl ⟨result, hresults, hshown⟩)
  | broken hquery hidle hheard hshown hresults =>
    obtain ⟨text, rfl⟩ := hquery
    obtain ⟨reply, hfirst, hrender⟩ := hheard
    rw [List.head?_filter] at hfirst
    rw [Session.Run.after_renderer] at hrender
    exact .inr (.inr ⟨text, reply, rfl, hfirst, hrender, hshown, hresults⟩)

end QueryConsole
