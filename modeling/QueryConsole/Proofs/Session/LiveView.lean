import QueryConsole.Proofs.Live.Invariant
import QueryConsole.Proofs.Session.Turn

/-!
# The live view within a session

What a session does to its live view is, move by move, one of the moves of a live view or nothing.
So a run of a session contains a run of its live view: the live view is in the same state after
both, and the same queries and updates of it can be seen. Calls never write to the live panel
themselves.

## Main definitions

- `Session.Run.deed`, `Session.Run.deeds`: what a session does to its live view

## Main results

- `Session.Run.exec_live`: a run of a session contains a run of its live view
- `Session.Run.sent_iff`, `Session.Run.shown_iff`: what can be seen of it is the same
- `Session.Run.exists_of_deeds`: each move of the live view has its place in the run of the session
-/

namespace QueryConsole

namespace Session

/-! ## What calls do to the live view -/

/-- What the beginning of a call does to the live view. -/
def beginDeed (s : Session) (now : Nat) : Action → Option Live.Move
  | .select name =>
    if Identifier.isValid (Text.trim name) then some (.subscribe now s.period (Text.trim name))
    else none
  | .tab tab => if s.selection.tab = .live ∧ tab ≠ .live then some .release else none
  | .close => some .release
  | _ => none

/-- What an outcome that a call waits for does to the live view. -/
def Stage.deed : Stage → Outcome → Option Live.Move
  | .change _, .ok reply => if reply.isFailure then none else some .release
  | _, _ => none

/-- The beginning of a call takes a subscription or hands one back. -/
theorem beginDeed_cases {s : Session} {now : Nat} {action : Action} {d : Live.Move}
    (h : s.beginDeed now action = some d) :
    (∃ now period table, d = .subscribe now period table) ∨ d = .release := by
  cases action with
  | select name =>
    obtain ⟨_, hd⟩ := Option.ite_none_right_eq_some.1 h
    exact .inl ⟨_, _, _, (Option.some.inj hd).symm⟩
  | tab tab =>
    obtain ⟨_, hd⟩ := Option.ite_none_right_eq_some.1 h
    exact .inr (Option.some.inj hd).symm
  | close => exact .inr (Option.some.inj h).symm
  | query text => cases h
  | create name => cases h
  | refresh => cases h
  | use name => cases h
  | tables => cases h

/-- A call that goes on can only hand a subscription back. -/
theorem Stage.deed_eq {stage : Stage} {outcome : Outcome} {d : Live.Move}
    (h : stage.deed outcome = some d) : d = .release := by
  cases outcome with
  | error e => cases stage <;> cases h
  | ok reply => cases stage <;> cases reply <;> cases h <;> rfl

/-- A call that is refused leaves the live view alone. -/
theorem beginDeed_of_refusal {action : Action} {reason : String}
    (h : action.refusal = some reason) (s : Session) (now : Nat) :
    s.beginDeed now action = none := by
  cases action with
  | select name =>
    simpa [beginDeed, Action.refusal] using Option.ne_none_iff_exists'.2 ⟨reason, h⟩
  | tab tab => cases h
  | close => cases h
  | _ => rfl

/-- A call that begins to wait leaves the live view alone. -/
theorem beginDeed_of_stage {action : Action} {stage : Stage}
    (h : action.stages[0]? = some stage) (s : Session) (now : Nat) :
    s.beginDeed now action = none := by
  cases action with
  | select name => cases h
  | tab tab => cases h
  | close => cases h
  | _ => rfl

/-- The session after the beginning of a call: its live view, and what never changes. -/
theorem Begins.session {s : Session} {now : Nat} {action : Action} {t : Turn}
    (h : Begins s now action t) :
    t.session.live = (s.live.exec s.renderer (s.beginDeed now action).toList).1 ∧
      t.session.renderer = s.renderer := by
  cases h with
  | rejected hrefusal =>
    rw [beginDeed_of_refusal hrefusal]
    exact ⟨rfl, rfl⟩
  | waits hrefusal hstage =>
    rw [beginDeed_of_stage hstage]
    exact ⟨rfl, rfl⟩
  | @selects name hvalid =>
    have hdeed : s.beginDeed now (.select name) =
        some (.subscribe now s.period (Text.trim name)) := by simp [beginDeed, hvalid]
    rw [hdeed]
    exact ⟨rfl, rfl⟩
  | enters =>
    refine ⟨?_, rfl⟩
    simp only [beginDeed, done, enter]
    split <;> rfl
  | closes => exact ⟨rfl, rfl⟩

/-- The session after a call has gone on: its live view, and what never changes. -/
theorem Resumes.session {s : Session} {stage : Stage} {outcome : Outcome} {t : Turn}
    (h : Resumes s stage outcome t) :
    t.session.live = (s.live.exec s.renderer (stage.deed outcome).toList).1 ∧
      t.session.renderer = s.renderer := by
  cases h with
  | unanswered => cases stage <;> exact ⟨rfl, rfl⟩
  | answered hrender => exact ⟨rfl, rfl⟩
  | broken hrender => exact ⟨rfl, rfl⟩
  | reported hanswer hlisting => cases stage <;> exact ⟨rfl, rfl⟩
  | created haccepted => exact ⟨rfl, rfl⟩
  | listed => exact ⟨rfl, rfl⟩
  | undrawn hdrawn => exact ⟨rfl, rfl⟩
  | @changed name reply haccepted =>
    have hdeed : Stage.deed (.change name) (.ok reply) = some .release := by
      simp [Stage.deed, haccepted]
    rw [hdeed]
    exact ⟨rfl, rfl⟩
  | named hnames => exact ⟨rfl, rfl⟩

/-- The beginning of a call shows nothing in the live panel. -/
theorem Begins.not_live {s : Session} {now : Nat} {action : Action} {t : Turn}
    (h : Begins s now action t) (content : Presentation) : (.live, content) ∉ t.shown := by
  cases h with
  | rejected hrefusal => simp [reject, fail]
  | waits hrefusal hstage => simp [await]
  | selects hvalid => simp [done]
  | enters => simp [done]
  | closes => simp [done]

/-- A call that goes on shows nothing in the live panel. -/
theorem Resumes.not_live {s : Session} {stage : Stage} {outcome : Outcome} {t : Turn}
    (h : Resumes s stage outcome t) (content : Presentation) : (.live, content) ∉ t.shown := by
  cases h with
  | unanswered => simp [fail]
  | answered hrender => simp [done]
  | broken hrender => simp
  | reported hanswer hlisting => simp [report, fail]
  | created haccepted => simp [await]
  | listed => simp [done]
  | undrawn hdrawn => simp [fail]
  | changed haccepted => simp [await]
  | named hnames => simp [done]

/-- A call sends no query of a poller. -/
theorem Turn.not_sent_poller (t : Turn) (call id : Nat) (query : String) :
    .sent (.poller id) query ∉ t.events call := by
  unfold Turn.events
  cases t.progress <;> simp

/-- What a call shows in the live panel is among its updates. -/
theorem Turn.live_of_shown {t : Turn} {call : Nat} {origin : Origin} {content : Presentation}
    (h : .shown origin .live content ∈ t.events call) : (.live, content) ∈ t.shown := by
  unfold Turn.events at h
  cases hp : t.progress <;> simp [hp] at h <;> exact h.1

/-! ## What a session does to its live view -/

namespace Run

/-- What a move of a session does to its live view. -/
def deed (r : Run) : Move → Option Live.Move
  | .begin now action => r.session.beginDeed now action
  | .answer call outcome =>
    (r.pending.find? (·.call == call)).bind fun p => p.stage.deed outcome
  | .ask now id => some (.ask now id)
  | .receive id outcome => some (.receive id outcome)
  | .look id => some (.look id)
  | .drop => some .release

/-- What a run of a session does to its live view. -/
def deeds (r : Run) : List Move → List Live.Move
  | [] => []
  | m :: rest => (r.deed m).toList ++ (r.step m).1.deeds rest

variable {r : Run}

/-- Only a poller's own move asks for it or receives for it. -/
theorem eq_of_deed {m : Move} {d : Live.Move} (h : r.deed m = some d) :
    (∀ now id, d = .ask now id → m = .ask now id) ∧
      ∀ id outcome, d = .receive id outcome → m = .receive id outcome := by
  cases m with
  | begin now action =>
    obtain ⟨_, _, _, rfl⟩ | rfl := beginDeed_cases h <;> simp
  | answer call outcome =>
    obtain ⟨p, _, hp⟩ := Option.bind_eq_some_iff.1 h
    cases Stage.deed_eq hp
    simp
  | ask now id =>
    cases h
    simp
  | receive id outcome =>
    cases h
    simp
  | look id =>
    cases h
    simp
  | drop =>
    cases h
    simp

theorem deed_eq_ask {m : Move} {now id : Nat} (h : r.deed m = some (.ask now id)) :
    m = .ask now id :=
  (eq_of_deed h).1 now id rfl

theorem deed_eq_receive {m : Move} {id : Nat} {outcome : Outcome}
    (h : r.deed m = some (.receive id outcome)) : m = .receive id outcome :=
  (eq_of_deed h).2 id outcome rfl

/-! ## One move -/

/-- A move of a session does its deed to the live view, and what never changes stays. -/
theorem step_session (r : Run) (m : Move) :
    (r.step m).1.session.live =
        (r.session.live.exec r.session.renderer (r.deed m).toList).1 ∧
      (r.step m).1.session.renderer = r.session.renderer := by
  cases m with
  | begin now action => exact (r.session.begins now action).session
  | answer call outcome =>
    simp only [step, deed]
    cases hp : r.pending.find? (·.call == call) with
    | none => exact ⟨rfl, rfl⟩
    | some p => exact (r.session.resumes p.stage outcome).session
  | ask now id => exact ⟨rfl, rfl⟩
  | receive id outcome => exact ⟨rfl, rfl⟩
  | look id => exact ⟨rfl, rfl⟩
  | drop => exact ⟨rfl, rfl⟩

/-- The events of a move that a call makes are those of a turn of the call; all others are those of
the live view. -/
theorem events_cases (r : Run) (m : Move) :
    (∃ (t : Turn) (call : Nat), (∀ content, (.live, content) ∉ t.shown) ∧
        (r.step m).2 = t.events call ∧
        (r.session.live.exec r.session.renderer (r.deed m).toList).2 = []) ∨
      (r.step m).2 =
        (r.session.live.exec r.session.renderer (r.deed m).toList).2.map Event.ofLive := by
  cases m with
  | begin now action =>
    refine .inl ⟨_, _, (r.session.begins now action).not_live, rfl, ?_⟩
    simp only [deed]
    cases hd : r.session.beginDeed now action with
    | none => rfl
    | some d => obtain ⟨_, _, _, rfl⟩ | rfl := beginDeed_cases hd <;> rfl
  | answer call outcome =>
    simp only [step, deed]
    cases hp : r.pending.find? (·.call == call) with
    | none => exact .inr rfl
    | some p =>
      refine .inl ⟨_, _, (r.session.resumes p.stage outcome).not_live, rfl, ?_⟩
      simp only [Option.bind_some]
      cases hd : p.stage.deed outcome with
      | none => rfl
      | some d =>
        cases Stage.deed_eq hd
        rfl
  | ask now id => exact .inr (by simp [step, deed, live, Live.exec, Live.step])
  | receive id outcome => exact .inr rfl
  | look id => exact .inr (by simp [step, deed, live, Live.exec, Live.step])
  | drop => exact .inr rfl

/-- The queries that pollers send in a session are those of its live view. -/
theorem sent_step_iff {m : Move} {id : Nat} {query : String} :
    .sent (.poller id) query ∈ (r.step m).2 ↔
      .sent id query ∈ (r.session.live.exec r.session.renderer (r.deed m).toList).2 := by
  obtain ⟨t, call, _, he, hnone⟩ | he := r.events_cases m
  · rw [he, hnone]
    exact iff_of_false (t.not_sent_poller call id query) List.not_mem_nil
  · rw [he, List.mem_map]
    constructor
    · rintro ⟨e, hmem, hof⟩
      cases e <;> cases hof
      exact hmem
    · intro hmem
      exact ⟨_, hmem, rfl⟩

/-- The updates of the live panel in a session are those of its live view. -/
theorem shown_step_iff {m : Move} {origin : Origin} {content : Presentation} :
    .shown origin .live content ∈ (r.step m).2 ↔ ∃ id, origin = .poller id ∧
      .shown id content ∈ (r.session.live.exec r.session.renderer (r.deed m).toList).2 := by
  obtain ⟨t, call, hlive, he, hnone⟩ | he := r.events_cases m
  · rw [he, hnone]
    refine iff_of_false (fun h => hlive content (Turn.live_of_shown h)) ?_
    rintro ⟨_, _, h⟩
    cases h
  · rw [he, List.mem_map]
    constructor
    · rintro ⟨e, hmem, hof⟩
      cases e <;> cases hof
      exact ⟨_, rfl, hmem⟩
    · rintro ⟨id, rfl, hmem⟩
      exact ⟨_, hmem, rfl⟩

/-! ## Runs -/

theorem exec_append (r : Run) (a b : List Move) :
    r.exec (a ++ b) = (((r.exec a).1.exec b).1, (r.exec a).2 ++ ((r.exec a).1.exec b).2) := by
  induction a generalizing r with
  | nil => rfl
  | cons m a ih => simp [exec, ih, List.append_assoc]

theorem deeds_append (r : Run) (a b : List Move) :
    r.deeds (a ++ b) = r.deeds a ++ (r.exec a).1.deeds b := by
  induction a generalizing r with
  | nil => rfl
  | cons m a ih => simp [deeds, exec, ih, List.append_assoc]

theorem deeds_cons_of_some {m : Move} {d : Live.Move} (h : r.deed m = some d)
    (rest : List Move) : r.deeds (m :: rest) = d :: (r.step m).1.deeds rest := by
  rw [deeds, h]
  rfl

theorem exec_renderer (r : Run) (moves : List Move) :
    (r.exec moves).1.session.renderer = r.session.renderer := by
  induction moves generalizing r with
  | nil => rfl
  | cons m moves ih => exact (ih (r.step m).1).trans (r.step_session m).2

/-- A run of a session contains a run of its live view. -/
theorem exec_live (r : Run) (moves : List Move) :
    (r.exec moves).1.session.live =
      (r.session.live.exec r.session.renderer (r.deeds moves)).1 := by
  induction moves generalizing r with
  | nil => rfl
  | cons m moves ih =>
    obtain ⟨hlive, hrenderer⟩ := r.step_session m
    simp only [exec, deeds, Live.exec_append]
    rw [ih, hlive, hrenderer]

/-- The queries that pollers send in a run of a session are those of the run of its live view. -/
theorem sent_iff {moves : List Move} {id : Nat} {query : String} :
    .sent (.poller id) query ∈ (r.exec moves).2 ↔
      .sent id query ∈ (r.session.live.exec r.session.renderer (r.deeds moves)).2 := by
  induction moves generalizing r with
  | nil => simp [exec, deeds, Live.exec]
  | cons m moves ih =>
    obtain ⟨hlive, hrenderer⟩ := r.step_session m
    simp only [exec, deeds, Live.exec_append, List.mem_append, sent_step_iff]
    rw [ih, hlive, hrenderer]

/-- The updates of the live panel in a run of a session are those of the run of its live view. -/
theorem shown_iff {moves : List Move} {id : Nat} {content : Presentation} :
    .shown (.poller id) .live content ∈ (r.exec moves).2 ↔
      .shown id content ∈ (r.session.live.exec r.session.renderer (r.deeds moves)).2 := by
  induction moves generalizing r with
  | nil => simp [exec, deeds, Live.exec]
  | cons m moves ih =>
    obtain ⟨hlive, hrenderer⟩ := r.step_session m
    simp only [exec, deeds, Live.exec_append, List.mem_append, shown_step_iff]
    rw [ih, hlive, hrenderer]
    simp

/-- Each move of the live view has its place in the run of the session. -/
theorem exists_of_deeds {moves : List Move} {x y : List Live.Move} {d : Live.Move}
    (h : r.deeds moves = x ++ d :: y) :
    ∃ a m b, moves = a ++ m :: b ∧ r.deeds a = x ∧ (r.exec a).1.deed m = some d ∧
      (r.exec (a ++ [m])).1.deeds b = y := by
  induction moves generalizing r x with
  | nil => simp [deeds] at h
  | cons m moves ih =>
    cases hd : r.deed m with
    | none =>
      rw [deeds, hd, Option.toList_none, List.nil_append] at h
      obtain ⟨a, m', b, rfl, hx, hm', hy⟩ := ih h
      exact ⟨m :: a, m', b, rfl, by simp [deeds, hd, hx], hm', hy⟩
    | some d' =>
      rw [deeds, hd, Option.toList_some, List.singleton_append] at h
      cases x with
      | nil =>
        obtain ⟨rfl, rfl⟩ := List.cons.inj h
        exact ⟨[], m, moves, rfl, rfl, hd, rfl⟩
      | cons d₀ x =>
        obtain ⟨rfl, hrest⟩ := List.cons.inj h
        obtain ⟨a, m', b, rfl, hx, hm', hy⟩ := ih hrest
        exact ⟨m :: a, m', b, rfl, by simp [deeds, hd, hx], hm', hy⟩

/-- An answer that arrives in the live view arrives in the run of the session. -/
theorem receive_of_deeds {moves : List Move} {id : Nat} {outcome : Outcome}
    (h : .receive id outcome ∈ r.deeds moves) : .receive id outcome ∈ moves := by
  obtain ⟨x, y, hsplit⟩ := List.append_of_mem h
  obtain ⟨a, m, b, rfl, _, hm, _⟩ := exists_of_deeds hsplit
  rw [deed_eq_receive hm]
  exact List.mem_append_right _ List.mem_cons_self

end Run

end Session

end QueryConsole
