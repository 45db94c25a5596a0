import QueryConsole.Proofs.Live.Current

/-!
# Who can still poll

Of all pollers that have not stopped, the one of the active subscription can still send a query, and
no other can, whatever happens from then on; and it cannot if it holds an answer that the renderer
does not return on. A poller sends its next query only after the answer to the one before has arrived.

## Main definitions

- `Live.CanSend`: a poller sends a query in some run from here on
- `Live.Poller.Breaks`: a poller that breaks when it looks at its answer
- `Live.GoesOn`: a poller sends a query when it is left alone

## Main results

- `Live.Sound.canSend_iff`: a poller can still send exactly when its subscription is active and it
  does not break
- `Live.receive_between`: an answer arrives between two queries of a poller
- `Live.not_sent_of_ended`: no query is sent for a subscription that has ended
-/

namespace QueryConsole

namespace Live

variable {renderer : Renderer} {l : Live} {id : Nat}

/-- A poller can still send: in some run from here on it does. -/
def CanSend (renderer : Renderer) (l : Live) (id : Nat) : Prop :=
  ∃ later query, .sent id query ∈ (l.exec renderer later).2

/-- A poller breaks when it looks at the answer that has arrived for it. -/
def Poller.Breaks (renderer : Renderer) (p : Poller) : Prop :=
  ∃ outcome, p.phase = .answered outcome ∧ outcome.shown renderer = none

/-- The moves that pollers make by themselves. -/
inductive Move.Own : Move → Prop
  | ask (now id : Nat) : Own (.ask now id)
  | receive (id : Nat) (outcome : Outcome) : Own (.receive id outcome)
  | look (id : Nat) : Own (.look id)

/-- A poller goes on polling: it sends again when all pollers are left alone. -/
def GoesOn (renderer : Renderer) (l : Live) (id : Nat) : Prop :=
  ∃ later, (∀ m ∈ later, Move.Own m) ∧ ∃ query, .sent id query ∈ (l.exec renderer later).2

/-- Every query is sent for the active subscription and asks for the rows of its table. -/
theorem Sound.active_of_sent (h : l.Sound) {m : Move} {query : String}
    (hsent : .sent id query ∈ (l.step renderer m).2) :
    ∃ sub, l.active = some sub ∧ sub.id = id ∧ query = selectAll sub.table := by
  obtain ⟨_, p, _, hp, hid, hrest, hquery, _⟩ := sent_cases hsent
  exact ⟨p.subscription, h.stray p hp (by rw [hrest]; rfl), hid, hquery⟩

/-- Once a subscription has ended, no query is sent for it any more. -/
theorem not_sent_of_ended (h : l.Sound) (hgiven : id ≤ l.issued) (hended : l.isActive id = false)
    (later : List Move) (query : String) : .sent id query ∉ (l.exec renderer later).2 := by
  intro hsent
  obtain ⟨a, m, b, _, hsent⟩ := mem_exec.1 hsent
  obtain ⟨sub, hsub, hid, _⟩ := (h.exec renderer a).active_of_sent hsent
  have hactive := isActive_iff.2 ⟨sub, hsub, hid⟩
  rw [not_active_of_ended hgiven hended a] at hactive
  cases hactive

/-- A move that takes a subscription or hands one back ends the one before. -/
theorem not_active_of_ending {d : Move}
    (hd : (∃ now period table, d = .subscribe now period table) ∨ d = .release)
    (hgiven : id ≤ l.issued) : (l.step renderer d).1.isActive id = false := by
  rw [Bool.eq_false_iff]
  intro hactive
  obtain ⟨sub, hsub, rfl⟩ := isActive_iff.1 hactive
  obtain ⟨now, period, table, rfl⟩ | rfl := hd
  · have hnew : ⟨l.issued + 1, table⟩ = sub := Option.some.inj hsub
    subst hnew
    exact Nat.not_succ_le_self _ hgiven
  · cases hsub

/-! ## The active subscription can send -/

theorem GoesOn.of_step {m : Move} (hm : Move.Own m)
    (h : GoesOn renderer (l.step renderer m).1 id) : GoesOn renderer l id := by
  obtain ⟨later, hown, query, hsent⟩ := h
  exact ⟨m :: later, List.forall_mem_cons.2 ⟨hm, hown⟩, query, List.mem_append_right _ hsent⟩

/-- A resting poller sends when its ticker falls due. -/
theorem goesOn_of_resting (h : l.Sound) {p : Poller} (hp : p ∈ l.pollers)
    (hphase : p.phase = .resting) : GoesOn renderer l p.id := by
  refine ⟨[.ask p.ticker.deadline p.id], List.forall_mem_singleton.2 (.ask _ _),
    selectAll p.table, ?_⟩
  obtain ⟨_, _, ticker, _⟩ := p
  simp only at hphase
  subst hphase
  simp [exec, step, ask, h.poller? hp]

/-- A poller whose answer has arrived sends again after it has shown the answer. -/
theorem goesOn_of_answered (h : l.Sound) {p : Poller} (hp : p ∈ l.pollers) {outcome : Outcome}
    (hphase : p.phase = .answered outcome) {content : Presentation}
    (hshown : outcome.shown renderer = some content) (hactive : l.isActive p.id = true) :
    GoesOn renderer l p.id := by
  have hlook : (l.look renderer p.id).1 = l.update p.id fun q => { q with phase := .resting } := by
    have hfind := h.poller? hp
    obtain ⟨_, _, _, _⟩ := p
    simp only at hphase hactive hfind
    subst hphase
    simp [look, hfind, hshown, hactive]
  have hrest : { p with phase := .resting } ∈ (l.look renderer p.id).1.pollers := by
    rw [hlook]
    exact mem_update.2 ⟨p, hp, by simp⟩
  have hnext := h.step renderer (.look p.id)
  have hgoes := @goesOn_of_resting renderer _ hnext _ hrest rfl
  exact GoesOn.of_step (.look _) hgoes

/-- A poller that waits for an answer sends again after the answer has arrived. -/
theorem goesOn_of_asking (h : l.Sound) {p : Poller} (hp : p ∈ l.pollers)
    (hphase : p.phase = .asking) (hactive : l.isActive p.id = true) :
    GoesOn renderer l p.id := by
  let outcome : Outcome := .error (.http "")
  have hreceive : l.receive p.id outcome =
      l.update p.id fun q => { q with phase := .answered outcome } := by
    have hfind := h.poller? hp
    obtain ⟨_, _, _, _⟩ := p
    simp only at hphase hfind
    subst hphase
    simp [receive, hfind]
  have hanswered : { p with phase := .answered outcome } ∈ (l.receive p.id outcome).pollers := by
    rw [hreceive]
    exact mem_update.2 ⟨p, hp, by simp⟩
  have hstill : (l.receive p.id outcome).isActive p.id = true := by
    rw [hreceive]
    exact hactive
  have hnext := h.step renderer (.receive p.id outcome)
  have hgoes := @goesOn_of_answered renderer _ hnext _ hanswered outcome rfl _ rfl hstill
  exact GoesOn.of_step (.receive _ _) hgoes

/-- The poller of the active subscription goes on polling, unless it breaks. -/
theorem Sound.goesOn (h : l.Sound) {p : Poller} (hp : p ∈ l.pollers)
    (hactive : l.active = some p.subscription) (hwhole : ¬p.Breaks renderer) :
    GoesOn renderer l p.id := by
  have hstill : l.isActive p.id = true := isActive_iff.2 ⟨_, hactive, rfl⟩
  cases hphase : p.phase with
  | resting => exact goesOn_of_resting h hp hphase
  | asking => exact goesOn_of_asking h hp hphase hstill
  | answered outcome =>
    cases hshown : outcome.shown renderer with
    | none => exact absurd ⟨outcome, hphase, hshown⟩ hwhole
    | some content => exact goesOn_of_answered h hp hphase hshown hstill

/-! ## A poller that breaks sends nothing -/

/-- The poller of a subscription breaks when it looks, or it is gone. -/
def Spent (renderer : Renderer) (l : Live) (id : Nat) : Prop :=
  id ≤ l.issued ∧ ∀ p ∈ l.pollers, p.id = id → p.Breaks renderer

theorem Spent.not_sent (hspent : Spent renderer l id) (m : Move) (query : String) :
    .sent id query ∉ (l.step renderer m).2 := by
  intro hsent
  obtain ⟨_, p, _, hp, hid, hrest, _⟩ := sent_cases hsent
  obtain ⟨outcome, hanswered, _⟩ := hspent.2 p hp hid
  rw [hrest] at hanswered
  cases hanswered

theorem Spent.not_shown (hspent : Spent renderer l id) (m : Move) (content : Presentation) :
    .shown id content ∉ (l.step renderer m).2 := by
  intro hshown
  obtain ⟨_, _, p, outcome, hp, hid, hphase, hmade⟩ := shown_cases hshown
  obtain ⟨outcome', hanswered, hbreaks⟩ := hspent.2 p hp hid
  rw [hphase] at hanswered
  cases hanswered
  rw [hmade] at hbreaks
  cases hbreaks

theorem Spent.step (h : l.Sound) (hspent : Spent renderer l id) (m : Move) :
    Spent renderer (l.step renderer m).1 id := by
  refine ⟨Nat.le_trans hspent.1 (issued_le_step m), fun p hp hid => ?_⟩
  cases h.comes hp with
  | kept hp => exact hspent.2 p hp hid
  | opened hnew _ => exact absurd (hnew ▸ hid ▸ hspent.1) (Nat.not_succ_le_self _)
  | asked _ _ _ _ _ now hm hsent => exact absurd (hid ▸ hsent) (hspent.not_sent m _)
  | received q hq hqid _ hwait _ _ _ =>
    obtain ⟨outcome, hanswered, _⟩ := hspent.2 q hq (hqid.trans hid)
    rw [hwait] at hanswered
    cases hanswered
  | looked q hq hqid _ outcome hwait _ hreturns _ =>
    obtain ⟨outcome', hanswered, hbreaks⟩ := hspent.2 q hq (hqid.trans hid)
    rw [hwait] at hanswered
    cases hanswered
    exact absurd hbreaks hreturns

theorem Spent.not_canSend (h : l.Sound) (hspent : Spent renderer l id) :
    ¬CanSend renderer l id := by
  rintro ⟨later, query, hsent⟩
  induction later generalizing l with
  | nil => cases hsent
  | cons m later ih =>
    obtain hnow | hlater := List.mem_append.1 hsent
    · exact hspent.not_sent m query hnow
    · exact ih (h.step renderer m) (hspent.step h m) hlater

/-- Of the pollers that have not stopped, exactly that of the active subscription can still send, if
it does not break. -/
theorem Sound.canSend_iff (h : l.Sound) {p : Poller} (hp : p ∈ l.pollers) :
    CanSend renderer l p.id ↔ l.active = some p.subscription ∧ ¬p.Breaks renderer := by
  constructor
  · intro hcan
    constructor
    · obtain ⟨later, query, hsent⟩ := hcan
      have hactive : l.isActive p.id = true := by
        by_contra hended
        exact not_sent_of_ended h (h.numbered p hp) (by simpa using hended) later query hsent
      exact h.active_eq hp hactive
    · intro hbreaks
      refine Spent.not_canSend h ⟨h.numbered p hp, fun q hq hid => ?_⟩ hcan
      rwa [h.eq_of_id hq hp hid]
  · rintro ⟨hactive, hwhole⟩
    obtain ⟨later, _, query, hsent⟩ := h.goesOn hp hactive hwhole
    exact ⟨later, query, hsent⟩

/-- At most one poller can still send. -/
theorem Sound.canSend_unique (h : l.Sound) {p q : Poller} (hp : p ∈ l.pollers) (hq : q ∈ l.pollers)
    (hps : CanSend renderer l p.id) (hqs : CanSend renderer l q.id) : p = q := by
  have hpa := ((h.canSend_iff hp).1 hps).1
  have hqa := ((h.canSend_iff hq).1 hqs).1
  have hid : p.subscription = q.subscription := Option.some.inj (hpa.symm.trans hqa)
  exact h.eq_of_id hp hq (congrArg Subscription.id hid)

/-! ## One query at a time -/

/-- A poller that no longer waits for the answer to a query has got it. -/
theorem received_of_sent {run since : List Move} {m : Move} {query : String}
    (hsent : .sent id query ∈ ((after renderer run).step renderer m).2) {p : Poller}
    (hp : p ∈ (after renderer (run ++ m :: since)).pollers) (hid : p.id = id)
    (hphase : p.phase ≠ .asking) : ∃ outcome, .receive id outcome ∈ since := by
  induction since using List.reverseRecOn generalizing p with
  | nil =>
    obtain ⟨_, _, _, _, _, _, _, hnext⟩ := sent_cases hsent
    rw [after_concat, hnext] at hp
    obtain ⟨q, _, rfl⟩ := mem_update.1 hp
    by_cases hq : q.id = id <;> simp [hq] at hphase hid
  | append_singleton since m' ih =>
    have hsplit : run ++ m :: (since ++ [m']) = (run ++ m :: since) ++ [m'] := by simp
    have hsound := after_sound renderer (run ++ m :: since)
    rw [hsplit, after_concat] at hp
    cases hsound.comes hp with
    | kept hp =>
      obtain ⟨outcome, hmem⟩ := ih hp hid hphase
      exact ⟨outcome, List.mem_append_left _ hmem⟩
    | opened hnew _ =>
      -- the poller has sent before, so its number is not a new one
      obtain ⟨_, q, _, hq, hqid, _⟩ := sent_cases hsent
      have hold := (after_sound renderer run).numbered q hq
      have hgrown : (after renderer run).issued ≤ (after renderer (run ++ m :: since)).issued := by
        rw [after_append]
        exact issued_le_exec (m :: since)
      omega
    | asked _ _ _ _ hask _ _ _ => exact absurd hask hphase
    | received _ _ _ _ _ outcome _ hm =>
      subst hm hid
      exact ⟨outcome, List.mem_append_right _ (List.mem_singleton_self _)⟩
    | looked q hq hqid _ outcome hwait _ _ _ =>
      obtain ⟨outcome, hmem⟩ := ih hq (hqid.trans hid) (by simp [hwait])
      exact ⟨outcome, List.mem_append_left _ hmem⟩

/-- Between two queries of one poller the answer to the first arrives. -/
theorem receive_between {run since : List Move} {m m' : Move} {query query' : String}
    (hfirst : .sent id query ∈ ((after renderer run).step renderer m).2)
    (hsecond : .sent id query' ∈ ((after renderer (run ++ m :: since)).step renderer m').2) :
    ∃ outcome, .receive id outcome ∈ since := by
  obtain ⟨_, p, _, hp, hid, hrest, _⟩ := sent_cases hsecond
  exact received_of_sent hfirst hp hid (by simp [hrest])

end Live

end QueryConsole
