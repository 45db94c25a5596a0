import QueryConsole.Proofs.Session.Alike
import QueryConsole.Rehearsal.Play

/-!
# What pollers do while time passes

While time passes up to the next appointment of an operator, only the pollers are at work. They send
their own queries and write to the live panel. As long as nothing else is done while their answers
are on the way, everything else of a theatre stays as it is.

## Main definitions

- `Rehearsal.Polled`: the queries of the pollers of some tables
- `Rehearsal.World.Alike`: two theatres are alike but for the polls
- `Rehearsal.World.Tended`: the pollers fetch some tables, and nothing is done meanwhile
- `Rehearsal.World.Polls`: only the pollers have been at work

## Main results

- `Rehearsal.World.Tended.advanceTo`: a theatre after some time is like before
-/

namespace QueryConsole

namespace Rehearsal

open Session (Action)

/-- A query with which the rows of one of some tables are fetched. -/
def Polled (tables : String → Prop) (query : String) : Prop :=
  ∃ table, tables table ∧ query = Live.selectAll table

/-- Nothing is done while an answer about one of some tables is on the way. -/
def Script.Quiet (tables : String → Prop) (script : Script Action) : Prop :=
  ∀ table, tables table → ∀ before, (script.cue before (Live.selectAll table)).during = none

namespace World

/-- Whether an entry of the history is about another panel than the live one. -/
def isApart (entry : Nat × Update) : Bool :=
  entry.2.1 != .live

/-- Two theatres are alike but for the polls: the sessions are, the same other queries were sent, and
all other panels have shown the same at the same times. -/
structure Alike (tables : String → Prop) (w v : Theatre) : Prop where
  gone : w.subject.gone = v.subject.gone
  session : w.subject.session.Alike v.subject.session
  sent : ∀ query, ¬Polled tables query → w.sentTimes query = v.sentTimes query
  shown : w.shown.filter isApart = v.shown.filter isApart

/-- The pollers of a theatre fetch some tables, and nothing is done when an answer arrives that is on
its way to one of them. -/
structure Tended (tables : String → Prop) (w : Theatre) : Prop where
  pollers : w.subject.session.live.Watches tables
  flight : ∀ f, w.flight = some f → f.cue.during = none

/-- From one theatre to another, only the pollers of some tables have been at work. -/
structure Polls (tables : String → Prop) (w w' : Theatre) : Prop where
  tended : Tended tables w'
  alike : Alike tables w' w

variable {tables : String → Prop} {script : Script Action} {w v x : Theatre}

namespace Alike

theorem refl (w : Theatre) : Alike tables w w :=
  ⟨rfl, .refl _, fun _ _ => rfl, rfl⟩

theorem symm (h : Alike tables w v) : Alike tables v w :=
  ⟨h.gone.symm, h.session.symm, fun query hquery => (h.sent query hquery).symm, h.shown.symm⟩

theorem trans (h : Alike tables w v) (h' : Alike tables v x) : Alike tables w x :=
  ⟨h.gone.trans h'.gone, h.session.trans h'.session,
    fun query hquery => (h.sent query hquery).trans (h'.sent query hquery),
    h.shown.trans h'.shown⟩

end Alike

/-! ## Sending and showing -/

theorem sentTimes_send (w : Theatre) (script : Script Action) (query other : String) :
    (w.send script query).1.sentTimes other =
      w.sentTimes other + if query = other then 1 else 0 := by
  simp only [send, sentTimes, List.countP_cons, beq_iff_eq]

/-- A query of a poller is none of the other queries. -/
theorem Alike.send {query : String} (hpolled : Polled tables query) (w : Theatre)
    (script : Script Action) :
    Alike tables (w.send script query).1 w := by
  refine ⟨rfl, .refl _, fun other hother => ?_, rfl⟩
  have hne : query ≠ other := fun he => hother (he ▸ hpolled)
  rw [sentTimes_send, if_neg hne, Nat.add_zero]

theorem isApart_updatesOf (now : Nat) (events : List Live.Event) :
    ((updatesOf events).map (Prod.mk now)).reverse.filter isApart = [] := by
  refine List.filter_eq_nil_iff.2 fun entry hentry => ?_
  obtain ⟨update, hupdate, rfl⟩ := List.mem_map.1 (List.mem_reverse.1 hentry)
  obtain ⟨e, _, he⟩ := List.mem_filterMap.1 hupdate
  cases e <;> cases he
  simp [isApart]

/-- What the live view shows is no update of another panel. -/
theorem shown_record_updatesOf (w : Theatre) (events : List Live.Event) :
    (w.record (updatesOf events)).shown.filter isApart = w.shown.filter isApart := by
  rw [record, List.filter_append, isApart_updatesOf, List.nil_append]

theorem intrude_of_none {cue : Cue Action} (h : cue.during = none) (w : Theatre) :
    w.intrude Rehearsed.cast cue = w := by
  simp only [intrude, h]

/-! ## The steps of a poller -/

/-- A theatre with another live view. -/
def withLive (w : Theatre) (live : Live) : Theatre :=
  { w with subject := { w.subject with session := { w.subject.session with live := live } } }

theorem Alike.withLive {live : Live} (hactive : live.active = w.subject.session.live.active)
    (hissued : live.issued = w.subject.session.live.issued) :
    Alike tables (w.withLive live) w :=
  ⟨rfl, ⟨rfl, hactive, hissued, rfl, rfl⟩, fun _ _ => rfl, rfl⟩

/-- An answer is given: it arrives, and the poller looks at it. -/
theorem deliver_eq {cue : Cue Action} (hquiet : cue.during = none) (w : Theatre) (id : Nat) :
    w.deliver Rehearsed.cast id cue =
      let looked := (w.subject.session.live.receive id cue.outcome).look
        w.subject.session.renderer id
      { w.withLive looked.1 with flight := none }.record (updatesOf looked.2) := by
  unfold deliver
  simp only [intrude_of_none hquiet]
  rfl

/-- A poller that looks at its answer writes to the live panel only. -/
theorem Tended.deliver (h : Tended tables w) (id : Nat) {cue : Cue Action}
    (hquiet : cue.during = none) :
    Polls tables w (w.deliver Rehearsed.cast id cue) := by
  rw [deliver_eq hquiet]
  refine ⟨⟨(h.pollers.receive id cue.outcome).look _ id, fun f hf => by cases hf⟩, ?_⟩
  exact ⟨rfl, ⟨rfl, by simp [record, World.withLive], by simp [record, World.withLive], rfl, rfl⟩,
    fun _ _ => rfl, shown_record_updatesOf _ _⟩

/-- A poller takes its tick, or nothing happens. -/
theorem poll_cases (w : Theatre) (script : Script Action) (p : Live.Poller) :
    (∃ q ∈ w.subject.session.live.pollers,
      let w' := w.withLive (w.subject.session.live.ask w.now p.id).1
      let cue := script.cue (w'.sentTimes (Live.selectAll q.table)) (Live.selectAll q.table)
      let w' := (w'.send script (Live.selectAll q.table)).1
      w.poll Rehearsed.cast script p = if cue.delay = 0 then w'.deliver Rehearsed.cast p.id cue
        else { w' with flight := some ⟨w'.now + cue.delay, p.id, cue⟩ }) ∨
    w.poll Rehearsed.cast script p =
      w.withLive (w.subject.session.live.ask w.now p.id).1 := by
  unfold World.poll
  obtain ⟨q, hq, _, _, he⟩ | he := Live.ask_cases w.subject.session.live w.now p.id
  · refine .inl ⟨q, (Live.poller?_some hq).1, ?_⟩
    simp only [Rehearsed.cast, he]
    rfl
  · refine .inr ?_
    simp only [Rehearsed.cast, he]
    rfl

/-- A poller that takes its tick sends its own query only. -/
theorem Tended.poll (h : Tended tables w) (hscript : script.Quiet tables) (p : Live.Poller) :
    Polls tables w (w.poll Rehearsed.cast script p) := by
  have hpollers := h.pollers.ask w.now p.id
  have halike : Alike tables (w.withLive (w.subject.session.live.ask w.now p.id).1) w :=
    .withLive (Live.ask_active _ _ _) (Live.ask_issued _ _ _)
  obtain ⟨q, hq, he⟩ | he := poll_cases w script p <;> rw [he]
  · have hpolled : Polled tables (Live.selectAll q.table) := ⟨q.table, h.pollers q hq, rfl⟩
    have hquiet := hscript q.table (h.pollers q hq)
    -- its answer is either given at once or on its way for a while
    have hsent := (Alike.send hpolled _ script).trans halike
    split
    · have htended : Tended tables ((w.withLive (w.subject.session.live.ask w.now p.id).1).send
          script (Live.selectAll q.table)).1 := ⟨hpollers, h.flight⟩
      obtain ⟨htended, hdelivered⟩ := htended.deliver p.id (hquiet _)
      exact ⟨htended, hdelivered.trans hsent⟩
    · refine ⟨⟨hpollers, fun f hf => ?_⟩, ⟨hsent.gone, hsent.session, hsent.sent, hsent.shown⟩⟩
      obtain rfl := Option.some.inj hf
      exact hquiet _
  · exact ⟨⟨hpollers, h.flight⟩, halike⟩

theorem Tended.act (h : Tended tables w) (hscript : script.Quiet tables) (p : Live.Poller) :
    Polls tables w (w.act Rehearsed.cast script p) := by
  unfold World.act
  split
  · exact h.poll hscript p
  · rename_i f _ hflight
    exact h.deliver f.id (h.flight f hflight)
  · exact ⟨h, .refl w⟩

/-- Whatever the pollers do up to some time, everything else stays as it is. -/
theorem Tended.pollUntil (h : Tended tables w) (hscript : script.Quiet tables) (time fuel : Nat) :
    Polls tables w (World.pollUntil Rehearsed.cast script time fuel w) := by
  induction fuel generalizing w with
  | zero => exact ⟨h, .refl w⟩
  | succ fuel ih =>
    unfold World.pollUntil
    split
    · exact ⟨h, .refl w⟩
    · rename_i due p _
      split
      · have hdue : Tended tables { w with now := due } := ⟨h.pollers, h.flight⟩
        obtain ⟨hacted, halike⟩ := hdue.act hscript p
        obtain ⟨hlater, hsame⟩ := ih hacted
        exact ⟨hlater, (hsame.trans halike).trans ⟨rfl, .refl _, fun _ _ => rfl, rfl⟩⟩
      · exact ⟨h, .refl w⟩

/-- A theatre after some time, in which no operator did anything, is alike but for the polls. -/
theorem Tended.advanceTo (h : Tended tables w) (hscript : script.Quiet tables) (time : Nat) :
    Polls tables w (w.advanceTo Rehearsed.cast script time) := by
  obtain ⟨htended, halike⟩ := h.pollUntil hscript time (2 * (time + 2))
  exact ⟨⟨htended.pollers, htended.flight⟩,
    ⟨halike.gone, halike.session, halike.sent, halike.shown⟩⟩

end World

end Rehearsal

end QueryConsole
