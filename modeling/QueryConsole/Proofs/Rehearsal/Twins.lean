import QueryConsole.Proofs.Rehearsal.Polls

/-!
# Two theatres side by side

The same operators work in two theatres whose daemons answer the calls alike and the polls in any
way. Call by call, wait by wait, both theatres do the same: a call sends no query of a poller, so the
same answer is its turn in both of them, and the sessions that it meets differ in their pollers only.

## Main definitions

- `Rehearsal.Script.Agree`: two daemons that answer alike but for the polls
- `Rehearsal.World.Twins`: two theatres at the same time that are alike but for the polls
- `Rehearsal.Play.Twins`: two plays in which the same operators wait for the same

## Main results

- `Rehearsal.World.Twins.follow`: a call does the same in both theatres, up to its next wait
- `Rehearsal.Play.Twins.keep`: both plays keep an appointment in the same way
-/

namespace QueryConsole

namespace Session

/-- A call that goes on to wait waits for one of the two lists. -/
theorem Resumes.next_eq {s : Session} {stage next : Stage} {outcome : Outcome} {t : Turn}
    (h : Resumes s stage outcome t) (hwaits : t.progress = .waiting next) :
    next = .listing ∨ next = .tables := by
  cases h with
  | unanswered => cases hwaits
  | answered hrender => cases hwaits
  | broken hrender => cases hwaits
  | reported hanswer hlisting => cases hwaits
  | created haccepted => exact .inl (Progress.waiting.inj hwaits).symm
  | listed => cases hwaits
  | undrawn hdrawn => cases hwaits
  | changed haccepted => exact .inr (Progress.waiting.inj hwaits).symm
  | named hnames => cases hwaits

end Session

namespace Rehearsal

open Session (Action Stage Turn)

variable {tables : String → Prop}

/-! ## Actions and queries apart from the polls -/

/-- An action that is no poll: it watches only some tables, and its own statement is not the query
of a poller. -/
structure Apart (tables : String → Prop) (action : Action) : Prop where
  within : action.Within tables
  unpolled : ∀ text, action = .query text → ¬Polled tables (Text.trim text)

/-- A text that begins otherwise is no query of a poller. -/
theorem not_polled_of_head {query : String} {c : Char} {rest : List Char}
    (h : query.toList = c :: rest) (hc : c ≠ 'S') : ¬Polled tables query := by
  rintro ⟨table, _, rfl⟩
  have hselect : (Live.selectAll table).toList =
      'S' :: ("ELECT * FROM ".toList ++ table.toList ++ [';']) := by
    have hquery : Live.selectAll table = "SELECT * FROM " ++ table ++ ";" := rfl
    simp [hquery]
  exact hc (List.cons.inj (h.symm.trans hselect)).1

theorem not_polled_listing : ¬Polled tables Stage.listing.query :=
  not_polled_of_head rfl (by decide)

theorem not_polled_tables : ¬Polled tables Stage.tables.query :=
  not_polled_of_head rfl (by decide)

/-- A call sends no query of a poller at first. -/
theorem Apart.first {action : Action} (h : Apart tables action) {stage : Stage}
    (hstage : action.stages[0]? = some stage) : ¬Polled tables stage.query := by
  cases action with
  | query text =>
    obtain rfl := Option.some.inj hstage
    exact h.unpolled text rfl
  | create name =>
    obtain rfl := Option.some.inj hstage
    have hchars : (Stage.creation (Text.trim name)).query.toList =
        'C' :: ("REATE DATABASE ".toList ++ (Text.trim name).toList ++ [';']) := by
      simp [Session.creation_query]
    exact not_polled_of_head hchars (by decide)
  | refresh =>
    obtain rfl := Option.some.inj hstage
    exact not_polled_listing
  | use name =>
    obtain rfl := Option.some.inj hstage
    have hchars : (Stage.change (Text.trim name)).query.toList =
        'U' :: ("SE ".toList ++ (Text.trim name).toList ++ [';']) := by
      simp [Session.change_query]
    exact not_polled_of_head hchars (by decide)
  | tables =>
    obtain rfl := Option.some.inj hstage
    exact not_polled_tables
  | select name => cases hstage
  | tab tab => cases hstage
  | close => cases hstage

/-- Two daemons answer all queries alike but for those of the pollers. What is done while other
answers are on the way watches only the tables of these pollers, and while theirs are on the way
nothing is done. -/
structure Script.Agree (tables : String → Prop) (a b : Script Action) : Prop where
  alike : ∀ query, ¬Polled tables query → ∀ before, a.cue before query = b.cue before query
  quiet : a.Quiet tables
  quiet' : b.Quiet tables
  within : ∀ before query action, (a.cue before query).during = some action → action.Within tables

/-- What is done while an answer is on the way watches only some tables. -/
def Cue.Within (tables : String → Prop) (cue : Cue Action) : Prop :=
  ∀ action, cue.during = some action → action.Within tables

/-- Two turns of a call are alike, and it does not go on to wait for a poll. -/
structure Turns (tables : String → Prop) (t u : Turn) : Prop where
  alike : t.Alike u
  left : t.session.live.Watches tables
  right : u.session.live.Watches tables
  unpolled : ∀ stage, t.progress = .waiting stage → ¬Polled tables stage.query

/-! ## Two theatres -/

namespace World

/-- A theatre after a turn of a call. -/
def take (w : Theatre) (t : Turn) : Theatre :=
  { w with subject := { w.subject with session := t.session } }.record t.shown

/-- Two theatres at the same time are alike but for the polls. -/
structure Twins (tables : String → Prop) (w v : Theatre) : Prop where
  now : w.now = v.now
  alike : Alike tables w v
  left : Tended tables w
  right : Tended tables v

variable {a b : Script Action} {w v : Theatre}

namespace Twins

theorem advanceTo (h : Twins tables w v) (hscripts : Script.Agree tables a b) (time : Nat) :
    Twins tables (w.advanceTo Rehearsed.cast a time) (v.advanceTo Rehearsed.cast b time) := by
  obtain ⟨hleft, halike⟩ := h.left.advanceTo hscripts.quiet time
  obtain ⟨hright, halike'⟩ := h.right.advanceTo hscripts.quiet' time
  exact ⟨rfl, (halike.trans h.alike).trans halike'.symm, hleft, hright⟩

/-- A turn of a call in both theatres. -/
theorem take (h : Twins tables w v) {t u : Turn} (hturn : t.Alike u)
    (hleft : t.session.live.Watches tables) (hright : u.session.live.Watches tables) :
    Twins tables (w.take t) (v.take u) := by
  refine ⟨h.now, ⟨h.alike.gone, hturn.session, h.alike.sent, ?_⟩, ⟨hleft, h.left.flight⟩,
    ⟨hright, h.right.flight⟩⟩
  simp only [World.take, record, List.filter_append, h.now, hturn.shown, h.alike.shown]

/-- A call begins in both theatres. -/
theorem begins (h : Twins tables w v) {action : Action} (haction : Apart tables action) :
    Turns tables (w.subject.session.begin w.now action)
      (v.subject.session.begin v.now action) := by
  have hbegins := w.subject.session.begins w.now action
  have hbegins' := v.subject.session.begins v.now action
  refine ⟨h.now ▸ h.alike.session.begin w.now action, hbegins.watches h.left.pollers haction.within,
    hbegins'.watches h.right.pollers haction.within, fun stage hwaits => ?_⟩
  exact haction.first (hbegins.stage_eq hwaits)

/-- A call goes on in both theatres with the same outcome. -/
theorem resumes (h : Twins tables w v) (stage : Stage) (outcome : Outcome) :
    Turns tables (w.subject.session.resume stage outcome)
      (v.subject.session.resume stage outcome) := by
  have hresumes := w.subject.session.resumes stage outcome
  have hresumes' := v.subject.session.resumes stage outcome
  refine ⟨h.alike.session.resume stage outcome, hresumes.watches h.left.pollers,
    hresumes'.watches h.right.pollers, fun next hwaits => ?_⟩
  obtain rfl | rfl := hresumes.next_eq hwaits
  · exact not_polled_listing
  · exact not_polled_tables

/-- What is done while an answer is on the way. -/
theorem intrude (h : Twins tables w v) {cue : Cue Action} (hcue : cue.Within tables) :
    Twins tables (w.intrude Rehearsed.cast cue) (v.intrude Rehearsed.cast cue) := by
  cases hduring : cue.during with
  | none => rwa [intrude_of_none hduring, intrude_of_none hduring]
  | some action =>
    have hwithin := hcue action hduring
    have hturn := h.alike.session.begin w.now action
    have hleft := (w.subject.session.begins w.now action).watches h.left.pollers hwithin
    have hright := (v.subject.session.begins v.now action).watches h.right.pollers hwithin
    simp only [World.intrude, hduring]
    rw [h.now] at hturn hleft
    have htwins := h.take hturn hleft hright
    simpa only [World.take, Rehearsed.cast, Rehearsed.perform, h.now] using htwins

end Twins

end World

/-- Something done in two theatres gives the same in both, and leaves them alike. -/
structure Abreast {β : Type} (tables : String → Prop) (P : β → Prop) (x y : Theatre × β) :
    Prop where
  world : World.Twins tables x.1 y.1
  result : x.2 = y.2
  holds : P x.2

theorem Abreast.exists_eq {β : Type} {P : β → Prop} {x y : Theatre × β}
    (h : Abreast tables P x y) :
    ∃ w v r, x = (w, r) ∧ y = (v, r) ∧ World.Twins tables w v ∧ P r :=
  ⟨x.1, y.1, x.2, rfl, by rw [h.result], h.world, h.holds⟩

/-! ## Calls -/

/-- While an operator waits, only some tables come to be watched. -/
def Wake.Within (tables : String → Prop) : Wake → Prop
  | .sleep => True
  | .answer _ cue => cue.Within tables

/-- A call stands at its end, or waits in that way. -/
def Standing.Within (tables : String → Prop) : Standing → Prop
  | .ended _ => True
  | .waits _ wake => wake.Within tables
  | .broken => True

namespace Theatre

theorem follow_finished {turn : Turn} {result : Except Error Session.Value}
    (h : turn.progress = .finished result) (script : Script Action) (fuel : Nat) (w : Theatre) :
    follow script fuel w turn = (w.take turn, .ended result) := by
  rw [follow, h]
  rfl

theorem follow_broken {turn : Turn} (h : turn.progress = .broken) (script : Script Action)
    (fuel : Nat) (w : Theatre) : follow script fuel w turn = (w.take turn, .broken) := by
  rw [follow, h]
  rfl

/-- A call that waits goes on at once where the answer has no delay. -/
theorem follow_waiting {turn : Turn} {stage : Stage} (h : turn.progress = .waiting stage)
    (script : Script Action) (fuel : Nat) (w : Theatre) :
    follow script fuel w turn =
      let (w', cue) := (w.take turn).send script stage.query
      match fuel, cue.delay with
      | fuel + 1, 0 =>
        let w' := w'.intrude Rehearsed.cast cue
        follow script fuel w' (w'.subject.session.resume stage cue.outcome)
      | _, delay => (w', .waits (w'.now + delay) (.answer stage cue)) := by
  rw [follow, h]
  rfl

end Theatre

namespace World.Twins

variable {a b : Script Action} {w v : Theatre}

/-- Any other query gets the same answer in both theatres. -/
theorem send (h : Twins tables w v) (hscripts : Script.Agree tables a b) {query : String}
    (hquery : ¬Polled tables query) :
    Abreast tables (Cue.Within tables) (w.send a query) (v.send b query) := by
  refine ⟨⟨h.now, ?_, ⟨h.left.pollers, h.left.flight⟩, ⟨h.right.pollers, h.right.flight⟩⟩, ?_,
    hscripts.within _ _⟩
  · refine ⟨h.alike.gone, h.alike.session, fun other hother => ?_, h.alike.shown⟩
    rw [sentTimes_send, sentTimes_send, h.alike.sent other hother]
  · simp only [World.send, h.alike.sent query hquery, hscripts.alike query hquery]

/-- A call that does not go on to wait is over in both theatres. -/
theorem follow_of_over (h : Twins tables w v) {t u : Turn} (hturns : Turns tables t u)
    (hover : ∀ stage, t.progress ≠ .waiting stage) (fuel : Nat) :
    Abreast tables (Standing.Within tables) (Theatre.follow a fuel w t)
      (Theatre.follow b fuel v u) := by
  have htaken := h.take hturns.alike hturns.left hturns.right
  cases hprogress : t.progress with
  | finished result =>
    have hprogress' : u.progress = .finished result := hturns.alike.progress ▸ hprogress
    rw [Theatre.follow_finished hprogress, Theatre.follow_finished hprogress']
    exact ⟨htaken, rfl, trivial⟩
  | broken =>
    have hprogress' : u.progress = .broken := hturns.alike.progress ▸ hprogress
    rw [Theatre.follow_broken hprogress, Theatre.follow_broken hprogress']
    exact ⟨htaken, rfl, trivial⟩
  | waiting stage => exact absurd hprogress (hover stage)

/-- A call does the same in both theatres, up to its next wait. -/
theorem follow (hscripts : Script.Agree tables a b) (fuel : Nat) {t u : Turn}
    (h : Twins tables w v) (hturns : Turns tables t u) :
    Abreast tables (Standing.Within tables) (Theatre.follow a fuel w t)
      (Theatre.follow b fuel v u) := by
  induction fuel generalizing w v t u with
  | zero =>
    cases hprogress : t.progress with
    | finished result => exact h.follow_of_over hturns (by simp [hprogress]) 0
    | broken => exact h.follow_of_over hturns (by simp [hprogress]) 0
    | waiting stage =>
      have hprogress' : u.progress = .waiting stage := hturns.alike.progress ▸ hprogress
      have htaken := h.take hturns.alike hturns.left hturns.right
      obtain ⟨w', v', cue, hsent, hsent', hworld, hcue⟩ :=
        (htaken.send hscripts (hturns.unpolled stage hprogress)).exists_eq
      rw [Theatre.follow_waiting hprogress, Theatre.follow_waiting hprogress', hsent, hsent']
      refine ⟨hworld, ?_, hcue⟩
      simp only [hworld.now]
  | succ fuel ih =>
    cases hprogress : t.progress with
    | finished result => exact h.follow_of_over hturns (by simp [hprogress]) (fuel + 1)
    | broken => exact h.follow_of_over hturns (by simp [hprogress]) (fuel + 1)
    | waiting stage =>
      have hprogress' : u.progress = .waiting stage := hturns.alike.progress ▸ hprogress
      have htaken := h.take hturns.alike hturns.left hturns.right
      obtain ⟨w', v', cue, hsent, hsent', hworld, hcue⟩ :=
        (htaken.send hscripts (hturns.unpolled stage hprogress)).exists_eq
      rw [Theatre.follow_waiting hprogress, Theatre.follow_waiting hprogress', hsent, hsent']
      dsimp only
      -- the answer is the same, so both calls go on at once or both wait equally long
      cases cue.delay with
      | zero =>
        have hintruded := hworld.intrude hcue
        exact ih hintruded (hintruded.resumes stage cue.outcome)
      | succ delay =>
        refine ⟨hworld, ?_, hcue⟩
        simp only [hworld.now]

theorem begin (h : Twins tables w v) (hscripts : Script.Agree tables a b) {action : Action}
    (haction : Apart tables action) :
    Abreast tables (Standing.Within tables) (Theatre.begin w a action)
      (Theatre.begin v b action) :=
  follow hscripts 2 h (h.begins haction)

theorem resume (h : Twins tables w v) (hscripts : Script.Agree tables a b) (stage : Stage)
    {cue : Cue Action} (hcue : cue.Within tables) :
    Abreast tables (Standing.Within tables) (Theatre.resume w a stage cue)
      (Theatre.resume v b stage cue) :=
  follow hscripts stage.ahead (h.intrude hcue) ((h.intrude hcue).resumes stage cue.outcome)

end World.Twins

end Rehearsal

end QueryConsole
