import QueryConsole.Proofs.Session.LiveView
import QueryConsole.Proofs.Session.Calls

/-!
# Sessions that differ in their polls only

What a call does depends on what is selected and watched, on the rate of fetching and on the way
results are shown, but not on what the pollers are doing. And whatever a poller does, it leaves all
of this as it is. So two sessions in which the calls get the same outcomes stay alike, however often
the tables are fetched in each of them, whatever comes of it, and however that is interleaved with
the calls.

## Main definitions

- `Session.Alike`: two sessions are alike but for their pollers
- `Session.Move.isPoll`, `Session.Event.isPoll`: the steps of pollers, and what is seen of them
- `Live.Watches`: all pollers fetch one of some tables

## Main results

- `Session.Alike.begin`, `Session.Alike.resume`: the turns of a call in two sessions that are alike
- `Session.Run.exec_erase`: a run and the same run without the steps of its pollers
- `Session.Run.exec_alike`: two runs with the same calls and any polls
- `Session.Begins.watches`, `Session.Resumes.watches`: which tables a turn lets a poller fetch
-/

namespace QueryConsole

namespace Live

variable {tables : String → Prop} {l : Live} {id : Nat}

@[simp] theorem ask_issued (l : Live) (now id : Nat) : (l.ask now id).1.issued = l.issued := by
  obtain ⟨_, _, _, _, he⟩ | he := ask_cases l now id <;> simp [he]

@[simp] theorem receive_issued (l : Live) (id : Nat) (outcome : Outcome) :
    (l.receive id outcome).issued = l.issued := by
  obtain ⟨_, _, _, he⟩ | he := receive_cases l id outcome <;> simp [he]

@[simp] theorem look_issued (l : Live) (renderer : Renderer) (id : Nat) :
    (l.look renderer id).1.issued = l.issued := by
  obtain ⟨_, _, _, _, _, he⟩ | ⟨_, _, _, _, _, he⟩ | he := look_cases l renderer id <;> simp [he]

/-! ## The tables that are fetched -/

/-- All pollers fetch one of some tables. -/
def Watches (tables : String → Prop) (l : Live) : Prop :=
  ∀ p ∈ l.pollers, tables p.table

theorem Watches.update (h : l.Watches tables) {change : Poller → Poller}
    (htable : ∀ p, (change p).table = p.table) : (l.update id change).Watches tables := by
  intro q hq
  obtain ⟨p, hp, rfl⟩ := mem_update.1 hq
  split
  · rw [htable]
    exact h p hp
  · exact h p hp

theorem Watches.release (h : l.Watches tables) : l.release.Watches tables :=
  fun p hp => h p (mem_release.1 hp).1

theorem Watches.subscribe (h : l.Watches tables) (now period : Nat) {table : String}
    (htable : tables table) : (l.subscribe now period table).Watches tables := by
  intro p hp
  obtain hp | rfl := mem_subscribe.1 hp
  · exact h.release p hp
  · exact htable

theorem Watches.ask (h : l.Watches tables) (now id : Nat) : (l.ask now id).1.Watches tables := by
  obtain ⟨p, _, _, _, he⟩ | he := ask_cases l now id <;> rw [he]
  · exact h.update fun _ => rfl
  · exact h

theorem Watches.receive (h : l.Watches tables) (id : Nat) (outcome : Outcome) :
    (l.receive id outcome).Watches tables := by
  obtain ⟨p, _, _, he⟩ | he := receive_cases l id outcome <;> rw [he]
  · exact h.update fun _ => rfl
  · exact h

theorem Watches.look (h : l.Watches tables) (renderer : Renderer) (id : Nat) :
    (l.look renderer id).1.Watches tables := by
  obtain ⟨_, _, _, _, _, _, _, he⟩ | ⟨_, _, _, _, _, he⟩ | he := look_cases l renderer id <;>
    rw [he]
  · exact h.update fun _ => rfl
  · exact fun p hp => h p (mem_stop.1 hp).1
  · exact h

end Live

namespace Session

/-- Two sessions are alike but for what their pollers are doing. -/
structure Alike (s t : Session) : Prop where
  selection : s.selection = t.selection
  active : s.live.active = t.live.active
  issued : s.live.issued = t.live.issued
  period : s.period = t.period
  renderer : s.renderer = t.renderer

namespace Alike

variable {s t u : Session}

theorem refl (s : Session) : s.Alike s :=
  ⟨rfl, rfl, rfl, rfl, rfl⟩

theorem symm (h : s.Alike t) : t.Alike s :=
  ⟨h.selection.symm, h.active.symm, h.issued.symm, h.period.symm, h.renderer.symm⟩

theorem trans (h : s.Alike t) (h' : t.Alike u) : s.Alike u :=
  ⟨h.selection.trans h'.selection, h.active.trans h'.active, h.issued.trans h'.issued,
    h.period.trans h'.period, h.renderer.trans h'.renderer⟩

/-- The same table is watched. -/
theorem table (h : s.Alike t) : s.live.table = t.live.table :=
  congrArg (Option.map Live.Subscription.table) h.active

theorem watch (h : s.Alike t) (now : Nat) (table : String) :
    (s.watch now table).Alike (t.watch now table) where
  selection := by simp only [Session.watch, h.selection]
  active := by simp only [Session.watch, Live.subscribe, h.issued]
  issued := by simp only [Session.watch, Live.subscribe, h.issued]
  period := h.period
  renderer := h.renderer

theorem close (h : s.Alike t) : s.close.Alike t.close :=
  ⟨h.selection, rfl, h.issued, h.period, h.renderer⟩

theorem enter (h : s.Alike t) (tab : Tab) : (s.enter tab).Alike (t.enter tab) := by
  by_cases hleft : t.selection.tab = .live ∧ tab ≠ .live
  · simp only [Session.enter, h.selection, if_pos hleft]
    exact ⟨rfl, rfl, h.issued, h.period, h.renderer⟩
  · simp only [Session.enter, h.selection, if_neg hleft]
    exact ⟨rfl, h.active, h.issued, h.period, h.renderer⟩

theorem change (h : s.Alike t) (database : String) :
    (s.change database).Alike (t.change database) where
  selection := by simp only [Session.change, h.selection]
  active := rfl
  issued := h.issued
  period := h.period
  renderer := h.renderer

end Alike

/-! ## One turn -/

/-- Two turns do the same and leave sessions that are alike. -/
structure Turn.Alike (t u : Turn) : Prop where
  session : t.session.Alike u.session
  shown : t.shown = u.shown
  progress : t.progress = u.progress

namespace Alike

variable {s t : Session}

theorem named (h : s.Alike t) (name : String) {go go' : String → Turn}
    (hgo : ∀ name, (go name).Alike (go' name)) : (s.named name go).Alike (t.named name go') := by
  by_cases hvalid : Identifier.isValid (Text.trim name) = true
  · simp only [Session.named, if_pos hvalid]
    exact hgo _
  · simp only [Session.named, if_neg hvalid]
    exact ⟨h, rfl, rfl⟩

theorem await (h : s.Alike t) (stage : Stage) : (s.await stage).Alike (t.await stage) :=
  ⟨h, rfl, rfl⟩

/-- A call begins in the same way in two sessions that are alike. -/
theorem begin (h : s.Alike t) (now : Nat) (action : Action) :
    (s.begin now action).Alike (t.begin now action) := by
  cases action with
  | query text =>
    simp only [Session.begin]
    split
    · exact ⟨h, rfl, rfl⟩
    · exact h.await _
  | create name =>
    simp only [Session.begin]
    exact h.named name fun _ => h.await _
  | refresh => exact h.await _
  | use name =>
    simp only [Session.begin]
    exact h.named name fun _ => h.await _
  | tables => exact h.await _
  | select name =>
    simp only [Session.begin]
    exact h.named name fun name => ⟨h.watch now name, rfl, rfl⟩
  | tab tab => exact ⟨h.enter tab, rfl, rfl⟩
  | close => exact ⟨h.close, rfl, rfl⟩

/-- With the same outcome, a call goes on in the same way in two sessions that are alike. -/
theorem resume (h : s.Alike t) (stage : Stage) (outcome : Outcome) :
    (s.resume stage outcome).Alike (t.resume stage outcome) := by
  cases outcome with
  | error e => exact ⟨h, rfl, rfl⟩
  | ok reply =>
    cases stage with
    | answer text =>
      simp only [Session.resume, answered, h.renderer]
      cases t.renderer.render reply <;> exact ⟨h, rfl, rfl⟩
    | creation name => cases reply <;> exact ⟨h, rfl, rfl⟩
    | listing => cases reply <;> exact ⟨h, rfl, rfl⟩
    | change name =>
      cases reply with
      | failure message => exact ⟨h, rfl, rfl⟩
      | tabular rows => exact (h.change name).await _
      | listing databases => exact (h.change name).await _
    | tables =>
      simp only [Session.resume, answered, h.selection]
      cases tableNames t.selection.database reply <;> exact ⟨h, rfl, rfl⟩

end Alike

/-! ## The tables that a turn lets a poller fetch -/

/-- An action selects only one of some tables, if any. -/
def Action.Within (tables : String → Prop) (action : Action) : Prop :=
  ∀ name, action = .select name → Identifier.isValid (Text.trim name) = true →
    tables (Text.trim name)

variable {tables : String → Prop} {s : Session}

theorem watches_enter (h : s.live.Watches tables) (tab : Tab) :
    (s.enter tab).live.Watches tables := by
  simp only [enter]
  split
  · exact h.release
  · exact h

theorem Begins.watches {now : Nat} {action : Action} {t : Turn} (hturn : Begins s now action t)
    (h : s.live.Watches tables) (hwithin : action.Within tables) :
    t.session.live.Watches tables := by
  cases hturn with
  | rejected hrefusal => exact h
  | waits hrefusal hstage => exact h
  | selects hvalid => exact h.subscribe _ _ (hwithin _ rfl hvalid)
  | enters => exact watches_enter h _
  | closes => exact h.release

theorem Resumes.watches {stage : Stage} {outcome : Outcome} {t : Turn}
    (hturn : Resumes s stage outcome t) (h : s.live.Watches tables) :
    t.session.live.Watches tables := by
  cases hturn with
  | unanswered => exact h
  | answered hrender => exact h
  | broken hrender => exact h
  | reported hanswer hlisting => exact h
  | created haccepted => exact h
  | listed => exact h
  | undrawn hdrawn => exact h
  | changed haccepted => exact h.release
  | named hnames => exact h

/-! ## Runs -/

/-- Whether a poller makes a step. -/
def Move.isPoll : Move → Bool
  | .ask _ _ => true
  | .receive _ _ => true
  | .look _ => true
  | _ => false

/-- Whether something is seen of a poller. -/
def Event.isPoll : Event → Bool
  | .sent (.poller _) _ => true
  | .shown (.poller _) _ _ => true
  | _ => false

/-- What is seen of the calls. -/
def ofCalls (events : List Event) : List Event :=
  events.filter (!·.isPoll)

@[simp] theorem ofCalls_append (a b : List Event) : ofCalls (a ++ b) = ofCalls a ++ ofCalls b :=
  List.filter_append ..

@[simp] theorem ofCalls_ofLive (events : List Live.Event) :
    ofCalls (events.map Event.ofLive) = [] := by
  refine List.filter_eq_nil_iff.2 fun e he => ?_
  obtain ⟨e, _, rfl⟩ := List.mem_map.1 he
  cases e <;> simp [Event.ofLive, Event.isPoll]

namespace Run

variable {r q : Run}

/-- Two sessions under way are alike but for their pollers: the same calls wait in them. -/
structure Alike (r q : Run) : Prop where
  session : r.session.Alike q.session
  begun : r.begun = q.begun
  pending : r.pending = q.pending

theorem Alike.symm (h : r.Alike q) : q.Alike r :=
  ⟨h.session.symm, h.begun.symm, h.pending.symm⟩

theorem Alike.trans {p : Run} (h : r.Alike q) (h' : q.Alike p) : r.Alike p :=
  ⟨h.session.trans h'.session, h.begun.trans h'.begun, h.pending.trans h'.pending⟩

/-- A step of a poller leaves a session as it is but for the poller, and only the poller is seen. -/
theorem step_poll {m : Move} (hpoll : m.isPoll = true) (r : Run) :
    (r.step m).1.Alike r ∧ ofCalls (r.step m).2 = [] := by
  cases m with
  | ask now id => exact ⟨⟨⟨rfl, by simp [step, live], by simp [step, live], rfl, rfl⟩, rfl, rfl⟩,
      ofCalls_ofLive _⟩
  | receive id outcome => exact ⟨⟨⟨rfl, by simp [step, live], by simp [step, live], rfl, rfl⟩,
      rfl, rfl⟩, rfl⟩
  | look id => exact ⟨⟨⟨rfl, by simp [step, live], by simp [step, live], rfl, rfl⟩, rfl, rfl⟩,
      ofCalls_ofLive _⟩
  | begin now action => cases hpoll
  | answer call outcome => cases hpoll
  | drop => cases hpoll

theorem events_eq {t u : Turn} (h : t.Alike u) (call : Nat) : t.events call = u.events call := by
  simp only [Turn.events, h.shown, h.progress]

theorem pending_eq {t u : Turn} (h : t.Alike u) (call : Nat) : t.pending call = u.pending call := by
  simp only [Turn.pending, h.progress]

/-- Any other move does the same in two sessions that are alike. -/
theorem Alike.step (h : r.Alike q) {m : Move} (hpoll : m.isPoll = false) :
    (r.step m).1.Alike (q.step m).1 ∧ (r.step m).2 = (q.step m).2 := by
  cases m with
  | begin now action =>
    have hturn := h.session.begin now action
    rw [step_begin, step_begin, ← h.begun]
    refine ⟨⟨hturn.session, rfl, ?_⟩, events_eq hturn _⟩
    simp only [h.pending, pending_eq hturn]
  | answer call outcome =>
    simp only [Run.step, ← h.pending]
    cases hp : r.pending.find? (·.call == call) with
    | none => exact ⟨h, rfl⟩
    | some p =>
      have hturn := h.session.resume p.stage outcome
      refine ⟨⟨hturn.session, h.begun, ?_⟩, events_eq hturn call⟩
      simp only [pending_eq hturn]
  | drop => exact ⟨⟨h.session.close, h.begun, h.pending⟩, rfl⟩
  | ask now id => cases hpoll
  | receive id outcome => cases hpoll
  | look id => cases hpoll

/-- The steps of the pollers can be left out of a run: that changes nothing but the pollers and what
is seen of them. -/
theorem exec_erase (h : r.Alike q) (moves : List Move) :
    (r.exec moves).1.Alike (q.exec (moves.filter (!·.isPoll))).1 ∧
      ofCalls (r.exec moves).2 = ofCalls (q.exec (moves.filter (!·.isPoll))).2 := by
  induction moves generalizing r q with
  | nil => exact ⟨h, rfl⟩
  | cons m moves ih =>
    cases hpoll : m.isPoll with
    | true =>
      obtain ⟨halike, hnone⟩ := step_poll hpoll r
      have hrest := ih (halike.trans h)
      rw [List.filter_cons_of_neg (by simp [hpoll])]
      simpa only [Run.exec, ofCalls_append, hnone, List.nil_append] using hrest
    | false =>
      obtain ⟨halike, hevents⟩ := h.step hpoll
      have hrest := ih halike
      rw [List.filter_cons_of_pos (by simp [hpoll])]
      simpa only [Run.exec, ofCalls_append, hevents, List.append_cancel_left_eq] using hrest

/-- Two runs with the same moves of calls, and with any polls in between: the calls send and show
and are told the same, and the sessions are alike after it. -/
theorem exec_alike (h : r.Alike q) {a b : List Move}
    (hcalls : a.filter (!·.isPoll) = b.filter (!·.isPoll)) :
    (r.exec a).1.Alike (q.exec b).1 ∧ ofCalls (r.exec a).2 = ofCalls (q.exec b).2 := by
  obtain ⟨halike, hevents⟩ := exec_erase h a
  obtain ⟨halike', hevents'⟩ := exec_erase (q := q) ⟨Alike.refl _, rfl, rfl⟩ b
  rw [hcalls] at halike hevents
  exact ⟨halike.trans halike'.symm, hevents.trans hevents'.symm⟩

end Run

end Session

end QueryConsole
