import QueryConsole.Proofs.Live.Current
import QueryConsole.Proofs.Session.LiveView

/-!
# The live panel is never stale

The live panel is written by pollers only. Whatever a poller writes there answers its last query,
and its subscription has been the active one at every moment since that query was sent. This holds
of a live view alone and of the live view of a session with any number of calls under way.

## Main definitions

- `Session.Run.after`: a session after a run from its beginning
- `Session.Run.LastAsked`: the last query of a poller in a run of a session
- `Session.Run.Current`: what may be shown for a subscription after a run of a session

## Main results

- `Session.Run.current_of_shown`: whatever the live panel shows is current
- `live_panel_never_stale`: the same of a live view alone and within a session
-/

namespace QueryConsole

namespace Session

namespace Run

variable {renderer : Renderer} {period : Nat}

/-- A session after a run from its beginning. -/
def after (renderer : Renderer) (period : Nat) (run : List Move) : Run :=
  ((start renderer period).exec run).1

/-- The last query of a poller in a run of a session: the moves before it, when it was sent, and the
moves since. -/
structure LastAsked (renderer : Renderer) (period : Nat) (run : List Move) (sub : Live.Subscription)
    (asked : List Move) (now : Nat) (since : List Move) : Prop where
  split : run = asked ++ .ask now sub.id :: since
  sent : .sent (.poller sub.id) (Live.selectAll sub.table) ∈
    ((after renderer period asked).step (.ask now sub.id)).2
  silent : ∀ query, .sent (.poller sub.id) query ∉
    ((after renderer period (asked ++ [.ask now sub.id])).exec since).2

/-- What may be shown for a subscription after a run of a session: the answer that has arrived to
its last query, if it has been active from that query on. -/
def Current (renderer : Renderer) (period : Nat) (run : List Move) (sub : Live.Subscription)
    (content : Presentation) : Prop :=
  ∃ asked now since outcome,
    LastAsked renderer period run sub asked now since ∧
    .receive sub.id outcome ∈ since ∧ outcome.shown renderer = some content ∧
    ∀ mid, mid <+: .ask now sub.id :: since →
      (after renderer period (asked ++ mid)).session.live.active = some sub

/-! ## The live view after a run -/

theorem start_session (renderer : Renderer) (period : Nat) :
    (start renderer period).session.live = {} ∧
      (start renderer period).session.renderer = renderer := by
  unfold start withPeriod
  split <;> exact ⟨rfl, rfl⟩

theorem after_renderer (run : List Move) :
    (after renderer period run).session.renderer = renderer :=
  (exec_renderer _ run).trans (start_session renderer period).2

theorem after_live (run : List Move) : (after renderer period run).session.live =
    Live.after renderer ((start renderer period).deeds run) := by
  rw [after, exec_live, (start_session renderer period).1, (start_session renderer period).2]
  rfl

theorem after_sound (run : List Move) : (after renderer period run).session.live.Sound :=
  after_live run ▸ Live.after_sound renderer _

theorem after_append (a b : List Move) :
    after renderer period (a ++ b) = ((after renderer period a).exec b).1 := by
  simp [after, exec_append]

/-! ## The last query within a session -/

/-- The last query of a poller in a run of the live view has its place in the run of the session. -/
theorem lastAsked_of_live {run : List Move} {sub : Live.Subscription} {now : Nat}
    {asked' since' : List Live.Move}
    (h : Live.LastAsked renderer ((start renderer period).deeds run) sub asked' now since') :
    ∃ asked since, LastAsked renderer period run sub asked now since ∧
      (start renderer period).deeds asked = asked' ∧
      (after renderer period (asked ++ [.ask now sub.id])).deeds since = since' := by
  obtain ⟨asked, m, since, rfl, hasked, hm, hsince⟩ := exists_of_deeds h.split
  have hask : m = .ask now sub.id := deed_eq_ask hm
  subst hask
  refine ⟨asked, since, ⟨rfl, ?_, ?_⟩, hasked, hsince⟩
  · have hsent := h.sent
    rw [← hasked, ← after_live] at hsent
    rw [sent_step_iff, after_renderer]
    simpa [deed, Live.exec] using hsent
  · intro query hsent
    rw [sent_iff, after_renderer, after_live, deeds_append, hasked] at hsent
    have hdeed : (after renderer period asked).deeds [.ask now sub.id] = [.ask now sub.id] := by
      simp [deeds, deed]
    have hsince' : (after renderer period (asked ++ [.ask now sub.id])).deeds since = since' :=
      hsince
    rw [show ((start renderer period).exec asked).1 = after renderer period asked from rfl,
      hdeed, hsince'] at hsent
    exact h.silent query hsent

/-- What is current for the live view is current for the session. -/
theorem current_of_live {run : List Move} {sub : Live.Subscription} {content : Presentation}
    (h : Live.Current renderer ((start renderer period).deeds run) sub content) :
    Current renderer period run sub content := by
  obtain ⟨asked', now, since', outcome, hlast', hreceive, hcontent, hactive⟩ := h
  obtain ⟨asked, since, hlast, rfl, rfl⟩ := lastAsked_of_live hlast'
  refine ⟨asked, now, since, outcome, hlast, receive_of_deeds hreceive, hcontent, ?_⟩
  rintro mid ⟨rest, hrest⟩
  have hprefix : (after renderer period asked).deeds mid <+: .ask now sub.id ::
      (after renderer period (asked ++ [.ask now sub.id])).deeds since := by
    refine ⟨((after renderer period asked).exec mid).1.deeds rest, ?_⟩
    rw [← deeds_append, hrest, after_append]
    rfl
  rw [after_live, deeds_append]
  exact hactive _ hprefix

/-- Whatever the live panel shows is written by the poller of the active subscription, and is
current. -/
theorem current_of_shown {run : List Move} {m : Move} {origin : Origin} {content : Presentation}
    (h : .shown origin .live content ∈ ((after renderer period run).step m).2) :
    ∃ sub, (after renderer period run).session.live.active = some sub ∧
      origin = .poller sub.id ∧ Current renderer period run sub content := by
  obtain ⟨id, rfl, hshown⟩ := shown_step_iff.1 h
  rw [after_renderer, after_live] at hshown
  cases hd : (after renderer period run).deed m with
  | none =>
    rw [hd] at hshown
    cases hshown
  | some d =>
    rw [hd] at hshown
    simp only [Option.toList_some, Live.exec, List.append_nil] at hshown
    obtain ⟨sub, hactive, rfl, hcurrent⟩ := Live.current_of_shown hshown
    exact ⟨sub, (after_live run).symm ▸ hactive, rfl, current_of_live hcurrent⟩

/-- Once a subscription has ended, the live panel shows nothing for it any more. -/
theorem not_shown_of_ended {r : Run} {id : Nat} (hgiven : id ≤ r.session.live.issued)
    (hended : r.session.live.isActive id = false) (later : List Move) (content : Presentation) :
    .shown (.poller id) .live content ∉ (r.exec later).2 := by
  rw [shown_iff]
  exact Live.not_shown_of_ended hgiven hended _ content

end Run

end Session

/-! ## No stale answer -/

/-- Every update of the live panel is written by the poller of the subscription that is active at
that moment. It shows the answer to that poller's last query, and the subscription has been active
from the query to the update without a break. So for a subscription that was given out and is not
active any more, nothing is ever shown again, whatever arrives and whatever table is watched. The
first two parts are about a live view alone, the other two about one within a session. -/
theorem live_panel_never_stale :
    (∀ (renderer : Renderer) (run : List Live.Move) (m : Live.Move) (id : Nat)
        (content : Presentation),
      .shown id content ∈ ((Live.after renderer run).step renderer m).2 →
      ∃ sub, (Live.after renderer run).active = some sub ∧ sub.id = id ∧
        Live.Current renderer run sub content) ∧
    (∀ (renderer : Renderer) (run later : List Live.Move) (id : Nat) (content : Presentation),
      id ≤ (Live.after renderer run).issued → (Live.after renderer run).isActive id = false →
      .shown id content ∉ ((Live.after renderer run).exec renderer later).2) ∧
    (∀ (renderer : Renderer) (period : Nat) (run : List Session.Move) (m : Session.Move)
        (origin : Session.Origin) (content : Presentation),
      .shown origin .live content ∈ ((Session.Run.after renderer period run).step m).2 →
      ∃ sub, (Session.Run.after renderer period run).session.live.active = some sub ∧
        origin = .poller sub.id ∧ Session.Run.Current renderer period run sub content) ∧
    (∀ (renderer : Renderer) (period : Nat) (run later : List Session.Move) (id : Nat)
        (content : Presentation),
      id ≤ (Session.Run.after renderer period run).session.live.issued →
      (Session.Run.after renderer period run).session.live.isActive id = false →
      .shown (.poller id) .live content ∉
        ((Session.Run.after renderer period run).exec later).2) := by
  refine ⟨?_, ?_, ?_, ?_⟩
  · intro renderer run m id content h
    exact Live.current_of_shown h
  · intro renderer run later id content hgiven hended
    exact Live.not_shown_of_ended hgiven hended later content
  · intro renderer period run m origin content h
    exact Session.Run.current_of_shown h
  · intro renderer period run later id content hgiven hended
    exact Session.Run.not_shown_of_ended hgiven hended later content

/-- A table is watched anew while an answer to its first poller is there but not looked at; the
second poller has its answer. -/
def Live.watchedAnew (first second : Outcome) : List Live.Move :=
  [.subscribe 0 0 "t", .ask 2000 1, .receive 1 first, .subscribe 2100 0 "t", .look 1,
    .ask 4100 2, .receive 2 second]

/-- The same within a session, where the table is selected anew. -/
def Session.selectedAnew (first second : Outcome) : List Session.Move :=
  [.begin 0 (.select "t"), .ask 2000 1, .receive 1 first, .begin 2100 (.select " t"), .look 1,
    .ask 4100 2, .receive 2 second]

/-- The second answer is shown for the second subscription, and the first one is not shown. -/
theorem live_panel_never_stale_anew :
    let first : Outcome := .ok (.tabular [.text "old"])
    let second : Outcome := .ok (.tabular [.text "new"])
    let alone := Live.watchedAnew first second
    let within := Session.selectedAnew first second
    ((∃ sub, (Live.after .text alone).active = some sub ∧ sub.id = 2 ∧
        Live.Current .text alone sub (.text "new")) ∧
      .shown 1 (.text "old") ∉ ((Live.after .text alone).exec .text [.look 1, .look 2]).2) ∧
    (∃ sub, (Session.Run.after .text 0 within).session.live.active = some sub ∧
        .poller 2 = Session.Origin.poller sub.id ∧
        Session.Run.Current .text 0 within sub (.text "new")) ∧
      .shown (.poller 1) .live (.text "old") ∉
        ((Session.Run.after .text 0 within).exec [.look 1, .look 2]).2 := by
  intro first second alone within
  refine ⟨⟨?_, ?_⟩, ?_, ?_⟩
  · exact live_panel_never_stale.1 .text alone (.look 2) 2 _ (by decide +kernel)
  · exact live_panel_never_stale.2.1 .text alone _ 1 _ (by decide +kernel) (by decide +kernel)
  · exact live_panel_never_stale.2.2.1 .text 0 within (.look 2) (.poller 2) _
      (Session.Run.shown_step_iff.2 ⟨2, rfl, by decide +kernel⟩)
  · exact live_panel_never_stale.2.2.2 .text 0 within _ 1 _ (by decide +kernel) (by decide +kernel)

end QueryConsole
