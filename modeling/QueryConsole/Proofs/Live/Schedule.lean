import QueryConsole.Proofs.Live.Polling
import QueryConsole.Proofs.Live.Ticker

/-!
# When a poller polls

On a clock, the poller of an active subscription is the owner of its ticker: it takes a tick when it
sends a query, and is free again when it has shown the answer. If the renderer does not return on an
answer, that answer is never handled, and no other query is sent. Time does not pass by a poller that
could send.

## Main definitions

- `Live.Timely`: the runs of the live view on a clock, as far as one poller is concerned
- `Live.timed`: what can be seen of such a run, and when
- `Live.polls`, `Live.handled`: when a poller sent its queries, and when it showed the answers
- `Live.Schedule`: when polls are to be sent

## Main results

- `Live.Sound.proceeds`: what a move can be for a poller whose subscription stays active
- `Live.course`: such a poller takes the ticks of its ticker
- `poll_schedule`: the polls of a subscription
-/

namespace QueryConsole

namespace Live

variable {renderer : Renderer} {l : Live} {id : Nat}

/-! ## One move -/

def Event.isSent (id : Nat) : Event → Bool
  | .sent i _ => i == id
  | .shown _ _ => false

def Event.isShown (id : Nat) : Event → Bool
  | .sent _ _ => false
  | .shown i _ => i == id

/-- What a move is for a poller whose subscription is active after it. -/
inductive Proceeds (renderer : Renderer) (l : Live) (p : Poller) : Move → Prop
  /-- it takes its tick -/
  | asks {now : Nat} (hphase : p.phase = .resting) (hdue : p.ticker.deadline ≤ now)
    (hnext : { p with ticker := p.ticker.next now, phase := .asking } ∈
      (l.step renderer (.ask now p.id)).1.pollers)
    (hevents : (l.step renderer (.ask now p.id)).2 = [.sent p.id (selectAll p.table)]) :
    Proceeds renderer l p (.ask now p.id)
  /-- its answer arrives -/
  | receives {outcome : Outcome} (hphase : p.phase = .asking)
    (hnext : { p with phase := .answered outcome } ∈
      (l.step renderer (.receive p.id outcome)).1.pollers)
    (hevents : (l.step renderer (.receive p.id outcome)).2 = []) :
    Proceeds renderer l p (.receive p.id outcome)
  /-- it shows its answer -/
  | shows {outcome : Outcome} {content : Presentation} (hphase : p.phase = .answered outcome)
    (hnext : { p with phase := .resting } ∈ (l.step renderer (.look p.id)).1.pollers)
    (hevents : (l.step renderer (.look p.id)).2 = [.shown p.id content]) :
    Proceeds renderer l p (.look p.id)
  /-- its answer breaks it -/
  | breaks (hspent : Spent renderer l p.id) : Proceeds renderer l p (.look p.id)
  /-- nothing -/
  | stays {m : Move} (hnext : p ∈ (l.step renderer m).1.pollers)
    (hevents : ∀ e ∈ (l.step renderer m).2, e.isSent p.id = false ∧ e.isShown p.id = false) :
    Proceeds renderer l p m

theorem mem_update_self {p : Poller} {change : Poller → Poller} (hp : p ∈ l.pollers) :
    change p ∈ (l.update p.id change).pollers :=
  mem_update.2 ⟨p, hp, if_pos rfl⟩

theorem Proceeds.of_idle {p : Poller} {m : Move} (hp : p ∈ l.pollers)
    (h : l.step renderer m = (l, [])) : Proceeds renderer l p m := by
  refine .stays ?_ ?_
  · rwa [h]
  · rw [h]
    simp

/-- Nothing happens to a poller when another one changes. -/
theorem Proceeds.of_other {p : Poller} {m : Move} {change : Poller → Poller} {events : List Event}
    (hp : p ∈ l.pollers) (h : l.step renderer m = (l.update id change, events)) (hother : p.id ≠ id)
    (hevents : ∀ e ∈ events, e.isSent p.id = false ∧ e.isShown p.id = false) :
    Proceeds renderer l p m := by
  refine .stays ?_ ?_
  · rw [h]
    exact mem_update.2 ⟨p, hp, if_neg hother⟩
  · rwa [h]

/-- What a move can be for a poller whose subscription stays active. -/
theorem Sound.proceeds (h : l.Sound) {p : Poller} (hp : p ∈ l.pollers) {m : Move}
    (hactive : (l.step renderer m).1.isActive p.id = true) : Proceeds renderer l p m := by
  have hgiven : p.id ≤ l.issued := h.numbered p hp
  cases m with
  | subscribe now period table =>
    have hended : (l.step renderer (.subscribe now period table)).1.isActive p.id = false :=
      not_active_of_ending (.inl ⟨now, period, table, rfl⟩) hgiven
    rw [hended] at hactive
    cases hactive
  | release => cases hactive
  | ask now i =>
    obtain ⟨q, hq, hphase, hdue, he⟩ | he := ask_cases l now i
    · obtain ⟨hmem, rfl⟩ := poller?_some hq
      have hstep : l.step renderer (.ask now q.id) =
          (l.update q.id fun p => { p with ticker := q.ticker.next now, phase := .asking },
            [.sent q.id (selectAll q.table)]) := he
      by_cases hid : p.id = q.id
      · obtain rfl : p = q := h.eq_of_id hp hmem hid
        refine .asks hphase hdue ?_ (by rw [hstep])
        rw [hstep]
        exact mem_update_self hp
      · exact .of_other hp hstep hid (by simp [Event.isSent, Event.isShown, Ne.symm hid])
    · exact .of_idle hp he
  | receive i outcome =>
    obtain ⟨q, hq, hphase, he⟩ | he := receive_cases l i outcome
    · obtain ⟨hmem, rfl⟩ := poller?_some hq
      have hstep : l.step renderer (.receive q.id outcome) =
          (l.update q.id fun p => { p with phase := .answered outcome }, []) :=
        congrArg (·, []) he
      by_cases hid : p.id = q.id
      · obtain rfl : p = q := h.eq_of_id hp hmem hid
        refine .receives hphase ?_ (by rw [hstep])
        rw [hstep]
        exact mem_update_self hp
      · exact .of_other hp hstep hid (by simp)
    · exact .of_idle hp (congrArg (·, []) he)
  | look i =>
    obtain ⟨q, outcome, content, hq, hphase, _, _, he⟩ | ⟨q, outcome, hq, hphase, hwhy, he⟩ | he :=
      look_cases l renderer i
    · obtain ⟨hmem, rfl⟩ := poller?_some hq
      have hstep : l.step renderer (.look q.id) =
          (l.update q.id fun p => { p with phase := .resting }, [.shown q.id content]) := he
      by_cases hid : p.id = q.id
      · obtain rfl : p = q := h.eq_of_id hp hmem hid
        have hevents : (l.step renderer (.look p.id)).2 = [.shown p.id content] := by rw [hstep]
        refine .shows hphase ?_ hevents
        rw [hstep]
        exact mem_update_self hp
      · exact .of_other hp hstep hid (by simp [Event.isSent, Event.isShown, Ne.symm hid])
    · obtain ⟨hmem, rfl⟩ := poller?_some hq
      have hstep : l.step renderer (.look q.id) = (l.stop q.id, []) := he
      by_cases hid : p.id = q.id
      · -- the poller stops although its subscription is active
        obtain rfl : p = q := h.eq_of_id hp hmem hid
        obtain hidle | hbreaks := hwhy
        · rw [hstep, isActive, stop_active, ← isActive, hidle] at hactive
          cases hactive
        · refine .breaks ⟨hgiven, fun r hr hrid => ?_⟩
          rw [h.eq_of_id hr hp hrid]
          exact ⟨outcome, hphase, hbreaks⟩
      · refine .stays ?_ ?_
        · rw [hstep]
          exact mem_stop.2 ⟨hp, hid⟩
        · rw [hstep]
          simp
    · exact .of_idle hp he

/-! ## Runs on a clock -/

/-- When a move takes place, by its own account. -/
def Move.time? : Move → Option Nat
  | .subscribe now _ _ => some now
  | .ask now _ => some now
  | _ => none

/-- The runs of the live view on a clock, given as moves and when they take place. The clock does
not go back, and it does not go past the moment at which the poller of a subscription can send a
query; once it is past the deadline, it stands still until the query is sent. -/
def Timely (renderer : Renderer) (id : Nat) : Live → Nat → List (Nat × Move) → Prop
  | _, _, [] => True
  | l, clock, (now, m) :: rest =>
    clock ≤ now ∧ (∀ time ∈ m.time?, time = now) ∧
      (∀ p ∈ l.poller? id, p.phase.isResting = true → now ≤ p.ticker.ready clock) ∧
      Timely renderer id (l.step renderer m).1 now rest

instance timelyDecidable (renderer : Renderer) (id : Nat) (moves : List (Nat × Move)) (l : Live)
    (clock : Nat) : Decidable (Timely renderer id l clock moves) :=
  match moves with
  | [] => inferInstanceAs (Decidable True)
  | (now, m) :: rest =>
    have := timelyDecidable renderer id rest (l.step renderer m).1 now
    inferInstanceAs (Decidable (_ ∧ _ ∧ _ ∧ _))

/-- What can be seen of a run on a clock, and when. -/
def timed (renderer : Renderer) : Live → List (Nat × Move) → List (Nat × Event)
  | _, [] => []
  | l, (now, m) :: rest =>
    (l.step renderer m).2.map (Prod.mk now) ++ timed renderer (l.step renderer m).1 rest

/-- The time after a run on a clock. -/
def present : Nat → List (Nat × Move) → Nat
  | clock, [] => clock
  | _, (now, _) :: rest => present now rest

/-- The times of the events of one kind. -/
def timesOf (kind : Event → Bool) (events : List (Nat × Event)) : List Nat :=
  (events.filter fun e => kind e.2).map Prod.fst

theorem timesOf_append (kind : Event → Bool) (a b : List (Nat × Event)) :
    timesOf kind (a ++ b) = timesOf kind a ++ timesOf kind b := by
  rw [timesOf, List.filter_append, List.map_append]
  rfl

theorem timesOf_singleton (kind : Event → Bool) (now : Nat) (e : Event) :
    timesOf kind ([e].map (Prod.mk now)) = if kind e then [now] else [] := by
  cases hkind : kind e <;> simp [timesOf, hkind]

theorem timesOf_eq_nil {kind : Event → Bool} {events : List Event} (now : Nat)
    (h : ∀ e ∈ events, kind e = false) : timesOf kind (events.map (Prod.mk now)) = [] := by
  rw [timesOf, List.map_eq_nil_iff, List.filter_eq_nil_iff]
  intro timed htimed
  obtain ⟨e, he, rfl⟩ := List.mem_map.1 htimed
  simp [h e he]

/-- A poller that breaks, or is gone, is not seen again. -/
theorem Spent.unseen (h : l.Sound) (hspent : Spent renderer l id) (moves : List (Nat × Move)) :
    timesOf (Event.isSent id) (timed renderer l moves) = [] ∧
      timesOf (Event.isShown id) (timed renderer l moves) = [] := by
  induction moves generalizing l with
  | nil => exact ⟨rfl, rfl⟩
  | cons move moves ih =>
    obtain ⟨now, m⟩ := move
    obtain ⟨hsent, hshown⟩ := ih (h.step renderer m) (hspent.step h m)
    rw [timed, timesOf_append, timesOf_append, hsent, hshown, List.append_nil, List.append_nil]
    constructor
    · refine timesOf_eq_nil now fun e he => ?_
      cases e with
      | sent i query => exact beq_false_of_ne fun hi => hspent.not_sent m query (hi ▸ he)
      | shown i content => rfl
    · refine timesOf_eq_nil now fun e he => ?_
      cases e with
      | sent i query => rfl
      | shown i content => exact beq_false_of_ne fun hi => hspent.not_shown m content (hi ▸ he)

theorem Timely.le_present {moves : List (Nat × Move)} {clock : Nat}
    (h : Timely renderer id l clock moves) : clock ≤ present clock moves := by
  induction moves generalizing l clock with
  | nil => exact Nat.le_refl clock
  | cons move moves ih => exact Nat.le_trans h.1 (ih h.2.2.2)

/-- When the poller of a subscription sent its queries. -/
def polls (id : Nat) (events : List (Nat × Event)) : List Nat :=
  timesOf (Event.isSent id) events

/-- When the poller of a subscription showed the answers. -/
def handled (id : Nat) (events : List (Nat × Event)) : List Nat :=
  timesOf (Event.isShown id) events

/-- A poller takes the ticks of its ticker as long as its subscription is active, and is busy with
its query in between. The induction is on the moves, from the first one on. -/
theorem course {moves : List (Nat × Move)} {clock : Nat} {p : Poller} (h : l.Sound)
    (hp : p ∈ l.pollers) (htimely : Timely renderer p.id l clock moves)
    (hactive : (l.exec renderer (moves.map Prod.snd)).1.isActive p.id = true) :
    (p.phase = .resting → ∀ free, free ≤ clock → clock ≤ p.ticker.ready free →
      Ticker.Course (present clock moves) p.ticker free (polls p.id (timed renderer l moves))
        (handled p.id (timed renderer l moves))) ∧
    (p.phase ≠ .resting → Ticker.Engaged (present clock moves) p.ticker clock
      (polls p.id (timed renderer l moves)) (handled p.id (timed renderer l moves))) := by
  induction moves generalizing l clock p with
  | nil => exact ⟨fun _ _ _ hready => .waiting hready, fun _ => .still (Nat.le_refl _)⟩
  | cons move moves ih =>
    have hpresent := htimely.le_present
    obtain ⟨now, m⟩ := move
    obtain ⟨hforward, hdated, hprompt, hrest⟩ := htimely
    have hend : ((l.step renderer m).1.exec renderer (moves.map Prod.snd)).1.isActive p.id = true :=
      hactive
    have hstill : (l.step renderer m).1.isActive p.id = true := by
      by_contra hended
      have hgiven : p.id ≤ (l.step renderer m).1.issued :=
        Nat.le_trans (h.numbered p hp) (issued_le_step m)
      rw [not_active_of_ended hgiven (by simpa using hended)] at hend
      cases hend
    have hnext := h.step renderer m
    have hready : p.phase = .resting → now ≤ p.ticker.ready clock := by
      intro hphase
      exact hprompt p (h.poller? hp) (by rw [hphase]; rfl)
    have hproceeds := h.proceeds hp hstill
    by_cases hspent : Spent renderer l p.id
    · -- nothing is sent or shown any more, and the last answer is not handled
      obtain ⟨hsent, hshown⟩ := Spent.unseen h hspent ((now, m) :: moves)
      rw [polls, handled, hsent, hshown]
      refine ⟨fun hphase => ?_, fun _ => .still hpresent⟩
      obtain ⟨outcome, hanswered, _⟩ := hspent.2 p hp rfl
      rw [hphase] at hanswered
      cases hanswered
    simp only [polls, handled, timed, timesOf_append, present] at ih ⊢
    cases hproceeds with
    | breaks hbreaks => exact absurd hbreaks hspent
    | @asks time hphase hdue hmem hevents =>
      obtain rfl : time = now := hdated time rfl
      obtain ⟨_, hbusy⟩ := ih hnext hmem hrest hend
      have hengaged := hbusy (by simp)
      rw [hevents]
      refine ⟨fun _ free hfree hclock => ?_, fun hother => absurd hphase hother⟩
      have htime : p.ticker.ready free = time := by
        have hprompt := hready hphase
        simp only [Ticker.ready] at hclock hprompt ⊢
        omega
      rw [timesOf_singleton, timesOf_singleton]
      subst htime
      simpa [Event.isSent, Event.isShown] using hengaged.course
    | receives hphase hmem hevents =>
      obtain ⟨_, hbusy⟩ := ih hnext hmem hrest hend
      rw [hevents]
      refine ⟨fun hother => ?_, fun _ => (hbusy (by simp)).earlier hforward⟩
      rw [hphase] at hother
      cases hother
    | shows hphase hmem hevents =>
      obtain ⟨hresting, _⟩ := ih hnext hmem hrest hend
      rw [hevents]
      refine ⟨fun hother => ?_, fun _ => ?_⟩
      · rw [hphase] at hother
        cases hother
      · have hcourse := hresting rfl now (Nat.le_refl _) (Nat.le_max_left _ _)
        rw [timesOf_singleton, timesOf_singleton]
        simpa [Event.isSent, Event.isShown] using Ticker.Engaged.freed hforward hcourse
    | stays hmem hevents =>
      obtain ⟨hresting, hbusy⟩ := ih hnext hmem hrest hend
      rw [timesOf_eq_nil now fun e he => (hevents e he).1,
        timesOf_eq_nil now fun e he => (hevents e he).2, List.nil_append, List.nil_append]
      refine ⟨fun hphase free hfree hclock => ?_, fun hphase => (hbusy hphase).earlier hforward⟩
      apply hresting hphase free (Nat.le_trans hfree hforward)
      have hprompt := hready hphase
      simp only [Ticker.ready] at hclock hprompt ⊢
      omega

/-! ## The schedule -/

/-- When the polls of a subscription are sent that was made at the time `s` with the period `p`, and
when the replies to them are handled, up to the present. A reply is handled when the renderer has
returned and the panel shows it; until then it takes, and if the renderer does not return, for
ever. -/
structure Schedule (s p : Nat) (polls handled : List Nat) (present : Nat) : Prop where
  /-- every reply but the last one has been handled -/
  alternate : polls.length = handled.length ∨ polls.length = handled.length + 1
  /-- a reply is handled after its poll -/
  replied : ∀ k t h : Nat, polls[k]? = some t → handled[k]? = some h → t ≤ h
  /-- and the next poll is sent after that -/
  awaited : ∀ k h t : Nat, handled[k]? = some h → polls[k + 1]? = some t → h ≤ t
  /-- the polls are the ticks that the replies leave time for -/
  ticks : ∃ delays, polls = (Ticker.start s p).takes s delays ∧
    handled = (List.zipWith (· + ·) polls delays).take handled.length
  /-- whatever the replies take, two polls are about a period apart -/
  spaced : ∀ k t t' : Nat, polls[k]? = some t → polls[k + 1]? = some t' → t + p ≤ t' + 5
  /-- if no reply takes longer than a period, the polls are sent after each period, and none is left
  out -/
  punctual : (∀ k t : Nat, polls[k]? = some t → handled[k]?.getD present ≤ t + p) →
    (∀ k t : Nat, polls[k]? = some t → t = s + (k + 1) * p) ∧
      ∀ k, s + (k + 1) * p < present → polls[k]? = some (s + (k + 1) * p)

theorem schedule_of_course {s p present : Nat} {polls handled : List Nat}
    (h : Ticker.Course present (Ticker.start s p) s polls handled) :
    Schedule s p polls handled present where
  alternate := h.alternate
  replied := h.taken_le_freed
  awaited := h.freed_le_taken
  ticks := h.takes_eq
  spaced := h.spaced
  punctual hshort := by
    have hstart : s ≤ (Ticker.start s p).deadline := Nat.le_add_right s p
    obtain ⟨htimes, hpresent⟩ := h.on_time hstart hshort
    have hexact : ∀ k t : Nat, polls[k]? = some t → t = s + (k + 1) * p := by
      intro k t ht
      have htime : t = s + p + k * p := htimes k t ht
      rw [Nat.succ_mul]
      omega
    refine ⟨hexact, ?_⟩
    intro k hk
    cases ht : polls[k]? with
    | some t => rw [hexact k t ht]
    | none =>
      -- the poll would have been due
      have hlength : polls.length * p ≤ k * p :=
        Nat.mul_le_mul_right p (List.getElem?_eq_none_iff.1 ht)
      have hdue : present ≤ s + p + polls.length * p := hpresent
      rw [Nat.succ_mul] at hk
      omega

end Live

/-- The polls of a subscription that was made at the time `s` and is still active, in any run on a
clock and whatever the replies take. The next poll is not sent before the previous reply has been
handled, which a reply is only if the renderer returns on it. If no reply takes longer than the
period, the polls are sent exactly one, two, three periods after `s`, and so on. In any case two
consecutive polls are at least the period less 5 ms apart. A period of zero stands for the default
one. -/
theorem poll_schedule {renderer : Renderer} {before : List Live.Move} {s period : Nat}
    {table : String} {moves : List (Nat × Live.Move)}
    (htimely : Live.Timely renderer ((Live.after renderer before).issued + 1)
      ((Live.after renderer before).subscribe s period table) s moves)
    (hactive : (((Live.after renderer before).subscribe s period table).exec renderer
      (moves.map Prod.snd)).1.isActive ((Live.after renderer before).issued + 1) = true) :
    let id := (Live.after renderer before).issued + 1
    let events := ((Live.after renderer before).subscribe s period table).timed renderer moves
    Live.Schedule s (Ticker.effective period) (Live.polls id events) (Live.handled id events)
      (Live.present s moves) := by
  intro id events
  have hsound := (Live.after_sound renderer before).subscribe s period table
  let p : Live.Poller := ⟨id, table, .start s (Ticker.effective period), .resting⟩
  have hp : p ∈ ((Live.after renderer before).subscribe s period table).pollers :=
    Live.mem_subscribe.2 (.inr rfl)
  obtain ⟨hresting, _⟩ := Live.course hsound hp htimely hactive
  exact Live.schedule_of_course (hresting rfl s (Nat.le_refl s) (Nat.le_max_left _ _))

/-- The second reply takes longer than the period, so that the third poll is sent when it has been
handled. -/
theorem poll_schedule_delayed :
    let moves : List (Nat × Live.Move) := [(110, .ask 110 1), (113, .receive 1 (.ok (.tabular []))),
      (113, .look 1), (120, .ask 120 1), (137, .receive 1 (.error (.http "timed out"))),
      (137, .look 1), (137, .ask 137 1)]
    let events := (({} : Live).subscribe 100 10 "orders").timed .text moves
    Live.polls 1 events = [110, 120, 137] ∧
      Live.Schedule 100 10 (Live.polls 1 events) (Live.handled 1 events) 137 := by
  intro moves events
  have htimely : Live.Timely .text ((Live.after .text []).issued + 1)
      ((Live.after .text []).subscribe 100 10 "orders") 100 moves := by
    decide +kernel
  have hactive : (((Live.after .text []).subscribe 100 10 "orders").exec .text
      (moves.map Prod.snd)).1.isActive ((Live.after .text []).issued + 1) = true := by
    decide +kernel
  exact ⟨by decide +kernel, poll_schedule htimely hactive⟩

end QueryConsole
