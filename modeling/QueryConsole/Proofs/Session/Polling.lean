import QueryConsole.Proofs.Live.Polling
import QueryConsole.Proofs.Session.LivePanel

/-!
# One poller and no stray polls

At every moment of a run at most one poller can still send a query, and that is the poller of the
active subscription. Five things end a subscription within a session: another table is selected, the
live tab is left, the daemon accepts a change of the database, the session is closed, or it goes
away. After each of them no poller that was there before sends a query any more.

## Main definitions

- `Live.OnePoller`, `Session.Run.OnePoller`: what holds of the pollers after a run
- `Session.Run.CanSend`: a poller sends a query in some run of the session from here on
- `Session.Run.ends`: what ends a subscription within a session

## Main results

- `one_poller`: a live view alone and one within a session have one poller after every run
-/

namespace QueryConsole

namespace Live

/-- What holds of the pollers of a live view after a run. -/
structure OnePoller (renderer : Renderer) (run : List Move) : Prop where
  /-- of the pollers that have not stopped, exactly that of the active subscription can still
  send, unless it breaks on the answer that has arrived for it -/
  sender : ∀ p ∈ (after renderer run).pollers,
    CanSend renderer (after renderer run) p.id ↔
      (after renderer run).active = some p.subscription ∧ ¬p.Breaks renderer
  /-- so there is at most one -/
  unique : ∀ p ∈ (after renderer run).pollers, ∀ q ∈ (after renderer run).pollers,
    CanSend renderer (after renderer run) p.id → CanSend renderer (after renderer run) q.id → p = q
  /-- every query asks for the rows of the table that is watched when it is sent -/
  current : ∀ m id query, .sent id query ∈ ((after renderer run).step renderer m).2 →
    ∃ sub, (after renderer run).active = some sub ∧ sub.id = id ∧ query = selectAll sub.table
  /-- the answer to a query arrives before the poller sends its next one -/
  single : ∀ before m since m' id query query', run = before ++ m :: since →
    .sent id query ∈ ((after renderer before).step renderer m).2 →
    .sent id query' ∈ ((after renderer run).step renderer m').2 →
    ∃ outcome, .receive id outcome ∈ since
  /-- nothing is sent for a subscription that has ended -/
  ended : ∀ id ≤ (after renderer run).issued, (after renderer run).isActive id = false →
    ∀ later query, .sent id query ∉ ((after renderer run).exec renderer later).2
  /-- handing back the subscription ends it, and so does taking another one -/
  ending : ∀ d, (∃ now period table, d = .subscribe now period table) ∨ d = .release →
    ∀ id ≤ (after renderer run).issued, ∀ later query,
      .sent id query ∉ (((after renderer run).step renderer d).1.exec renderer later).2

theorem one_poller_after (renderer : Renderer) (run : List Move) : OnePoller renderer run where
  sender _ hp := (after_sound renderer run).canSend_iff hp
  unique _ hp _ hq := (after_sound renderer run).canSend_unique hp hq
  current _ _ _ := (after_sound renderer run).active_of_sent
  single := by
    rintro before m since m' id query query' rfl hfirst hsecond
    exact receive_between hfirst hsecond
  ended _ hgiven hended := not_sent_of_ended (after_sound renderer run) hgiven hended
  ending := by
    intro d hd id hgiven
    exact not_sent_of_ended ((after_sound renderer run).step renderer d)
      (Nat.le_trans hgiven (issued_le_step d)) (not_active_of_ending hd hgiven)

end Live

namespace Session

namespace Run

variable {renderer : Renderer} {period : Nat} {r : Run} {id : Nat}

/-- A poller can still send: in some run of the session from here on it does. -/
def CanSend (r : Run) (id : Nat) : Prop :=
  ∃ later query, .sent (.poller id) query ∈ (r.exec later).2

/-- What ends the subscription of a session, if there is one. -/
def ends (r : Run) : Move → Prop
  -- another table is watched
  | .begin _ (.select name) => Identifier.isValid (Text.trim name) = true
  -- the live tab is left
  | .begin _ (.tab tab) => r.session.selection.tab = .live ∧ tab ≠ .live
  -- the live view is closed
  | .begin _ .close => True
  -- the daemon has changed to another database
  | .answer call (.ok reply) => reply.isFailure = false ∧
      ∃ p name, r.pending.find? (·.call == call) = some p ∧ p.stage = .change name
  -- the session goes away
  | .drop => True
  | _ => False

/-- What holds of the pollers of a session after a run. -/
structure OnePoller (renderer : Renderer) (period : Nat) (run : List Move) : Prop where
  /-- of the pollers that have not stopped, exactly that of the active subscription can still
  send, unless it breaks on the answer that has arrived for it -/
  sender : ∀ p ∈ (after renderer period run).session.live.pollers,
    (after renderer period run).CanSend p.id ↔
      (after renderer period run).session.live.active = some p.subscription ∧ ¬p.Breaks renderer
  /-- so there is at most one -/
  unique : ∀ p ∈ (after renderer period run).session.live.pollers,
    ∀ q ∈ (after renderer period run).session.live.pollers,
    (after renderer period run).CanSend p.id → (after renderer period run).CanSend q.id → p = q
  /-- every query asks for the rows of the table that is watched when it is sent -/
  current : ∀ m id query, .sent (.poller id) query ∈ ((after renderer period run).step m).2 →
    ∃ sub, (after renderer period run).session.live.active = some sub ∧ sub.id = id ∧
      query = Live.selectAll sub.table
  /-- the answer to a query arrives before the poller sends its next one -/
  single : ∀ before m since m' id query query', run = before ++ m :: since →
    .sent (.poller id) query ∈ ((after renderer period before).step m).2 →
    .sent (.poller id) query' ∈ ((after renderer period run).step m').2 →
    ∃ outcome, .receive id outcome ∈ since
  /-- nothing is sent for a subscription that has ended -/
  ended : ∀ id ≤ (after renderer period run).session.live.issued,
    (after renderer period run).session.live.isActive id = false →
    ∀ later query, .sent (.poller id) query ∉ ((after renderer period run).exec later).2
  /-- each of the five ways to end a subscription ends it -/
  ending : ∀ m, (after renderer period run).ends m →
    ∀ id ≤ (after renderer period run).session.live.issued, ∀ later query,
      .sent (.poller id) query ∉ (((after renderer period run).step m).1.exec later).2

/-! ## Queries of the pollers -/

/-- What pollers do by themselves, they do within a session too. -/
theorem exists_deeds_of_own {later : List Live.Move} (h : ∀ m ∈ later, Live.Move.Own m) (r : Run) :
    ∃ moves, r.deeds moves = later := by
  induction later generalizing r with
  | nil => exact ⟨[], rfl⟩
  | cons d later ih =>
    obtain ⟨hd, hlater⟩ := List.forall_mem_cons.1 h
    obtain ⟨m, hm⟩ : ∃ m, r.deed m = some d := by
      cases hd with
      | ask now id => exact ⟨.ask now id, rfl⟩
      | receive id outcome => exact ⟨.receive id outcome, rfl⟩
      | look id => exact ⟨.look id, rfl⟩
    obtain ⟨moves, hmoves⟩ := ih hlater (r.step m).1
    exact ⟨m :: moves, by rw [deeds, hm, hmoves]; rfl⟩

theorem canSend_iff (hsound : r.session.live.Sound) {p : Live.Poller}
    (hp : p ∈ r.session.live.pollers) :
    r.CanSend p.id ↔
      r.session.live.active = some p.subscription ∧ ¬p.Breaks r.session.renderer := by
  constructor
  · rintro ⟨later, query, hsent⟩
    rw [sent_iff] at hsent
    exact (hsound.canSend_iff hp).1 ⟨_, query, hsent⟩
  · rintro ⟨hactive, hwhole⟩
    obtain ⟨later, hown, query, hsent⟩ := hsound.goesOn hp hactive hwhole
    obtain ⟨moves, rfl⟩ := exists_deeds_of_own hown r
    exact ⟨moves, query, sent_iff.2 hsent⟩

/-- A query of a poller in a session is one that a move of its live view sends. -/
theorem deed_of_sent {m : Move} {query : String} (h : .sent (.poller id) query ∈ (r.step m).2) :
    ∃ d, r.deed m = some d ∧
      .sent id query ∈ (r.session.live.step r.session.renderer d).2 := by
  rw [sent_step_iff] at h
  cases hd : r.deed m with
  | none =>
    rw [hd] at h
    cases h
  | some d =>
    rw [hd] at h
    exact ⟨d, rfl, by simpa [Live.exec] using h⟩

theorem not_sent_of_ended (hsound : r.session.live.Sound) (hgiven : id ≤ r.session.live.issued)
    (hended : r.session.live.isActive id = false) (later : List Move) (query : String) :
    .sent (.poller id) query ∉ (r.exec later).2 := by
  rw [sent_iff]
  exact Live.not_sent_of_ended hsound hgiven hended _ query

/-- What ends a subscription takes another one or hands it back. -/
theorem deed_of_ends {m : Move} (h : r.ends m) :
    ∃ d, r.deed m = some d ∧
      ((∃ now period table, d = .subscribe now period table) ∨ d = .release) := by
  cases m with
  | begin now action =>
    cases action with
    | select name => exact ⟨_, if_pos h, .inl ⟨_, _, _, rfl⟩⟩
    | tab tab => exact ⟨_, if_pos h, .inr rfl⟩
    | close => exact ⟨_, rfl, .inr rfl⟩
    | query text => exact h.elim
    | create name => exact h.elim
    | refresh => exact h.elim
    | use name => exact h.elim
    | tables => exact h.elim
  | answer call outcome =>
    cases outcome with
    | error e => exact h.elim
    | ok reply =>
      obtain ⟨haccepted, p, name, hp, hstage⟩ := h
      exact ⟨.release, by simp [deed, hp, hstage, Stage.deed, haccepted], .inr rfl⟩
  | ask now id => exact h.elim
  | receive id outcome => exact h.elim
  | look id => exact h.elim
  | drop => exact ⟨_, rfl, .inr rfl⟩

theorem one_poller_after (renderer : Renderer) (period : Nat) (run : List Move) :
    OnePoller renderer period run where
  sender _ hp := by
    have hiff := canSend_iff (after_sound run) hp
    rwa [after_renderer] at hiff
  unique p hp q hq hps hqs := by
    have hpa := ((canSend_iff (after_sound run) hp).1 hps).1
    have hqa := ((canSend_iff (after_sound run) hq).1 hqs).1
    have hid : p.subscription = q.subscription := Option.some.inj (hpa.symm.trans hqa)
    exact (after_sound run).eq_of_id hp hq (congrArg Live.Subscription.id hid)
  current m id query h := by
    obtain ⟨d, _, hsent⟩ := deed_of_sent h
    exact (after_sound run).active_of_sent hsent
  single := by
    rintro before m since m' id query query' rfl hfirst hsecond
    obtain ⟨d, hd, hfirst⟩ := deed_of_sent hfirst
    obtain ⟨d', hd', hsecond⟩ := deed_of_sent hsecond
    have hdeeds : (start renderer period).deeds (before ++ m :: since) =
        (start renderer period).deeds before ++
          d :: ((after renderer period before).step m).1.deeds since := by
      rw [deeds_append]
      exact congrArg _ (deeds_cons_of_some hd since)
    rw [after_renderer, after_live] at hfirst hsecond
    rw [hdeeds] at hsecond
    obtain ⟨outcome, hreceive⟩ := Live.receive_between hfirst hsecond
    exact ⟨outcome, receive_of_deeds hreceive⟩
  ended _ hgiven hended := not_sent_of_ended (after_sound run) hgiven hended
  ending := by
    intro m hm id hgiven
    obtain ⟨d, hd, hending⟩ := deed_of_ends hm
    have hstep : ((after renderer period run).step m).1.session.live =
        ((after renderer period run).session.live.step renderer d).1 := by
      rw [(step_session _ m).1, hd, after_renderer]
      rfl
    have hsound : ((after renderer period run).step m).1.session.live.Sound := by
      rw [hstep]
      exact (after_sound run).step renderer d
    refine not_sent_of_ended hsound ?_ ?_
    · rw [hstep]
      exact Nat.le_trans hgiven (Live.issued_le_step d)
    · rw [hstep]
      exact Live.not_active_of_ending hending hgiven

end Run

end Session

/-- At every moment of every run, of a live view alone and of a session, at most one poller can
still send a query. It is the poller of the active subscription, asks for the rows of the table that
is watched, and has at most one query under way. Nothing is sent any more for a subscription that
was handed back or replaced. -/
theorem one_poller :
    (∀ (renderer : Renderer) (run : List Live.Move), Live.OnePoller renderer run) ∧
    (∀ (renderer : Renderer) (period : Nat) (run : List Session.Move),
      Session.Run.OnePoller renderer period run) :=
  ⟨Live.one_poller_after, Session.Run.one_poller_after⟩

/-- The poller of a table that was left from inside its own query has its answer and sends nothing
more; the poller of the other table sends for that table. -/
theorem one_poller_switched :
    let run : List Session.Move := [.begin 0 (.select "t"), .ask 2000 1,
      .receive 1 (.ok (.tabular [])), .begin 2100 (.select "t2")]
    (Session.Run.after .text 0 run).session.live.pollers.map Live.Poller.id = [1, 2] ∧
      (∀ later query,
        .sent (.poller 1) query ∉ ((Session.Run.after .text 0 run).exec later).2) ∧
      ∃ sub, (Session.Run.after .text 0 run).session.live.active = some sub ∧ sub.id = 2 ∧
        "SELECT * FROM t2;" = Live.selectAll sub.table := by
  intro run
  have h := one_poller.2 .text 0 run
  refine ⟨by decide +kernel, ?_, ?_⟩
  · exact h.ended 1 (by decide +kernel) (by decide +kernel)
  · exact h.current (.ask 4100 2) 2 _ (Session.Run.sent_step_iff.2 (by decide +kernel))

end QueryConsole
