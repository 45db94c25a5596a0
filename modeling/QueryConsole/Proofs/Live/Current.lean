import QueryConsole.Proofs.Live.Invariant

/-!
# What the live panel shows is current

An answer is shown only while the subscription that asked for it is active, and it has been active
without a break since it asked. The number of the subscription decides this, not its table, so an
answer does not survive a change to another table and back.

## Main definitions

- `Live.after`: the live view after a run
- `Live.LastAsked`: the last query of a poller in a run
- `Live.Current`: what may be shown for a subscription after a run

## Main results

- `Live.current_of_shown`: whatever is shown is current
- `Live.not_shown_of_ended`: nothing is shown for a subscription that has ended
-/

namespace QueryConsole

namespace Live

variable {renderer : Renderer}

/-- The live view after a run that begins without a subscription. -/
def after (renderer : Renderer) (run : List Move) : Live :=
  (({} : Live).exec renderer run).1

theorem after_sound (renderer : Renderer) (run : List Move) : (after renderer run).Sound :=
  Sound.start.exec renderer run

theorem after_append (a b : List Move) :
    after renderer (a ++ b) = ((after renderer a).exec renderer b).1 := by
  simp [after, exec_append]

theorem after_concat (a : List Move) (m : Move) :
    after renderer (a ++ [m]) = ((after renderer a).step renderer m).1 :=
  exec_concat a m

/-- The last query of a poller in a run: the moves before it, when it was sent, and the moves
since. -/
structure LastAsked (renderer : Renderer) (run : List Move) (sub : Subscription)
    (asked : List Move) (now : Nat) (since : List Move) : Prop where
  split : run = asked ++ .ask now sub.id :: since
  sent : .sent sub.id (selectAll sub.table) ∈
    ((after renderer asked).step renderer (.ask now sub.id)).2
  silent : ∀ query,
    .sent sub.id query ∉ ((after renderer (asked ++ [.ask now sub.id])).exec renderer since).2

/-- What may be shown for a subscription after a run: the answer that has arrived to its last
query, if it has been active from that query on. -/
def Current (renderer : Renderer) (run : List Move) (sub : Subscription)
    (content : Presentation) : Prop :=
  ∃ asked now since outcome,
    LastAsked renderer run sub asked now since ∧
    .receive sub.id outcome ∈ since ∧ outcome.shown renderer = some content ∧
    ∀ mid, mid <+: .ask now sub.id :: since →
      (after renderer (asked ++ mid)).active = some sub

/-! ## The last query of a poller -/

/-- A poller that is not resting sends nothing. -/
theorem Sound.silent {l : Live} (h : l.Sound) {p : Poller} (hp : p ∈ l.pollers)
    (hbusy : p.phase ≠ .resting) (m : Move) (query : String) :
    .sent p.id query ∉ (l.step renderer m).2 := by
  intro hsent
  obtain ⟨_, q, _, hq, hid, hrest, _, _⟩ := sent_cases hsent
  have hqp : q = p := h.eq_of_id hq hp hid
  subst hqp
  exact hbusy hrest

theorem LastAsked.concat {run asked since : List Move} {sub : Subscription} {now : Nat} {m : Move}
    (h : LastAsked renderer run sub asked now since)
    (hm : ∀ query, .sent sub.id query ∉ ((after renderer run).step renderer m).2) :
    LastAsked renderer (run ++ [m]) sub asked now (since ++ [m]) where
  split := by rw [h.split, List.append_assoc, List.cons_append]
  sent := h.sent
  silent := by
    intro query hsent
    have hrun : after renderer run =
        ((after renderer (asked ++ [.ask now sub.id])).exec renderer since).1 := by
      rw [← after_append, h.split, List.append_assoc, List.singleton_append]
    rw [exec_append] at hsent
    obtain hold | hnew := List.mem_append.1 hsent
    · exact h.silent query hold
    · simp only [exec, List.append_nil] at hnew
      rw [← hrun] at hnew
      exact hm query hnew

/-- A poller that waits for an answer has asked. -/
theorem lastAsked_of_asking {run : List Move} {p : Poller}
    (hp : p ∈ (after renderer run).pollers) (hphase : p.phase = .asking) :
    ∃ asked now since, LastAsked renderer run p.subscription asked now since := by
  induction run using List.reverseRecOn with
  | nil => simp [after, exec] at hp
  | append_singleton run m ih =>
    have hsound := after_sound renderer run
    rw [after_concat] at hp
    cases hsound.comes hp with
    | kept hp =>
      obtain ⟨asked, now, since, hlast⟩ := ih hp
      exact ⟨asked, now, _, hlast.concat (hsound.silent hp (by simp [hphase]) m)⟩
    | opened _ hrest => simp [hphase] at hrest
    | asked q _ _ _ _ now hm hsent =>
      subst hm
      exact ⟨run, now, [], rfl, hsent, by simp [exec]⟩
    | received _ _ _ _ _ _ hanswered _ => simp [hphase] at hanswered
    | looked _ _ _ _ _ _ hrest _ _ => simp [hphase] at hrest

/-- A poller whose answer has arrived has asked, and the answer came after that. -/
theorem lastAsked_of_answered {run : List Move} {p : Poller} {outcome : Outcome}
    (hp : p ∈ (after renderer run).pollers) (hphase : p.phase = .answered outcome) :
    ∃ asked now since, LastAsked renderer run p.subscription asked now since ∧
      .receive p.id outcome ∈ since := by
  induction run using List.reverseRecOn with
  | nil => simp [after, exec] at hp
  | append_singleton run m ih =>
    have hsound := after_sound renderer run
    rw [after_concat] at hp
    cases hsound.comes hp with
    | kept hp =>
      obtain ⟨asked, now, since, hlast, hreceive⟩ := ih hp
      exact ⟨asked, now, _, hlast.concat (hsound.silent hp (by simp [hphase]) m),
        List.mem_append_left _ hreceive⟩
    | opened _ hrest => simp [hphase] at hrest
    | asked _ _ _ _ hask _ _ _ => simp [hphase] at hask
    | received q hq hid htable hwait o hanswered hm =>
      obtain ⟨asked, now, since, hlast⟩ := lastAsked_of_asking hq hwait
      rw [Poller.subscription, hid, htable] at hlast
      have ho : o = outcome := by simpa [hphase] using hanswered.symm
      subst ho hm
      refine ⟨asked, now, _, hlast.concat ?_, List.mem_append_right _ (List.mem_singleton_self _)⟩
      intro query
      exact hid ▸ hsound.silent hq (by simp [hwait]) _ query
    | looked _ _ _ _ _ _ hrest _ _ => simp [hphase] at hrest

/-! ## Active without a break -/

/-- A subscription that has sent a query and is active at the end of a run was active at every
moment from that query on. -/
theorem LastAsked.active {run asked since : List Move} {now : Nat} {sub : Subscription}
    (h : LastAsked renderer run sub asked now since)
    (hactive : (after renderer run).active = some sub) {mid : List Move}
    (hmid : mid <+: .ask now sub.id :: since) :
    (after renderer (asked ++ mid)).active = some sub := by
  obtain ⟨_, p, _, hp, hid, _⟩ := sent_cases h.sent
  have hgiven : sub.id ≤ (after renderer (asked ++ mid)).issued := by
    rw [← hid, after_append]
    exact Nat.le_trans ((after_sound renderer asked).numbered p hp) (issued_le_exec mid)
  obtain ⟨rest, hrest⟩ := hmid
  have hend : ((after renderer (asked ++ mid)).exec renderer rest).1.active = some sub := by
    rw [← after_append, List.append_assoc, hrest, ← h.split]
    exact hactive
  exact active_of_exec hend hgiven

/-! ## Nothing stale is shown -/

/-- Whatever is shown is shown by the poller of the active subscription, and is current. -/
theorem current_of_shown {run : List Move} {m : Move} {id : Nat} {content : Presentation}
    (h : .shown id content ∈ ((after renderer run).step renderer m).2) :
    ∃ sub, (after renderer run).active = some sub ∧ sub.id = id ∧
      Current renderer run sub content := by
  have hsound := after_sound renderer run
  obtain ⟨_, hactive, p, outcome, hp, rfl, hphase, hshown⟩ := shown_cases h
  have hsub := hsound.active_eq hp hactive
  obtain ⟨asked, now, since, hlast, hreceive⟩ := lastAsked_of_answered hp hphase
  exact ⟨p.subscription, hsub, rfl, asked, now, since, outcome, hlast, hreceive, hshown,
    fun _ hmid => hlast.active hsub hmid⟩

/-- Once a subscription has ended, it never becomes active again. -/
theorem not_active_of_ended {l : Live} {id : Nat} (hgiven : id ≤ l.issued)
    (hended : l.isActive id = false) (later : List Move) :
    (l.exec renderer later).1.isActive id = false := by
  rw [Bool.eq_false_iff]
  intro hactive
  obtain ⟨sub, hsub, rfl⟩ := isActive_iff.1 hactive
  have hstill : l.isActive sub.id = true := isActive_iff.2 ⟨sub, active_of_exec hsub hgiven, rfl⟩
  rw [hended] at hstill
  cases hstill

/-- Once a subscription has ended, nothing is shown for it any more. -/
theorem not_shown_of_ended {l : Live} {id : Nat} (hgiven : id ≤ l.issued)
    (hended : l.isActive id = false) (later : List Move) (content : Presentation) :
    .shown id content ∉ (l.exec renderer later).2 := by
  intro hshown
  obtain ⟨a, m, b, _, hshown⟩ := mem_exec.1 hshown
  obtain ⟨_, hactive, _⟩ := shown_cases hshown
  rw [not_active_of_ended hgiven hended a] at hactive
  cases hactive

end Live

end QueryConsole
