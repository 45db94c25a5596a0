import Mathlib.Data.List.Induction
import Mathlib.Data.List.Nodup
import QueryConsole.Live.Slot

/-!
# What holds of the live view at every moment

Every move of the live view is described once: who may send, who may show something, and where the
pollers after a move come from. From that follow the facts that hold after every run. The one that
carries all others is `Live.Sound.stray`: a poller whose answer has not arrived belongs to the
active subscription. So the only pollers that outlive their subscription are those that are about to
look at an answer, and these stop when they look. A poller breaks if the renderer does not return; so
the active subscription need not have one.

## Main definitions

- `Live.Poller.subscription`: the subscription of a poller
- `Live.Sound`: how the pollers, the subscription and the numbers given out fit together
- `Live.Comes`: how a poller came about in a move

## Main results

- `Live.sent_cases`, `Live.shown_cases`: who sends and who shows
- `Live.Sound.exec`: every run keeps a live view sound
- `Live.active_of_exec`: a subscription is active without a break
-/

namespace QueryConsole

namespace Live

variable {renderer : Renderer} {l : Live} {id : Nat}

/-- The subscription whose rows a poller fetches. -/
def Poller.subscription (p : Poller) : Subscription :=
  ⟨p.id, p.table⟩

/-! ## The parts of a move -/

theorem isActive_iff : l.isActive id = true ↔ ∃ sub, l.active = some sub ∧ sub.id = id := by
  simp [isActive, Option.any_eq_true]

@[simp] theorem update_active (change : Poller → Poller) :
    (l.update id change).active = l.active := rfl

@[simp] theorem update_issued (change : Poller → Poller) :
    (l.update id change).issued = l.issued := rfl

@[simp] theorem stop_active : (l.stop id).active = l.active := rfl

@[simp] theorem stop_issued : (l.stop id).issued = l.issued := rfl

@[simp] theorem release_active : l.release.active = none := rfl

@[simp] theorem release_issued : l.release.issued = l.issued := rfl

theorem mem_update {change : Poller → Poller} {q : Poller} :
    q ∈ (l.update id change).pollers ↔
      ∃ p ∈ l.pollers, (if p.id = id then change p else p) = q := by
  simp [update, List.mem_map]

theorem mem_stop {p : Poller} : p ∈ (l.stop id).pollers ↔ p ∈ l.pollers ∧ p.id ≠ id := by
  simp [stop, List.mem_filter]

theorem mem_release {p : Poller} :
    p ∈ l.release.pollers ↔ p ∈ l.pollers ∧ (l.isActive p.id = false ∨ p.phase.isAnswered) := by
  simp [release, List.mem_filter]

theorem mem_subscribe {now period : Nat} {table : String} {p : Poller} :
    p ∈ (l.subscribe now period table).pollers ↔ p ∈ l.release.pollers ∨
      p = ⟨l.issued + 1, table, .start now (Ticker.effective period), .resting⟩ := by
  simp [subscribe]

theorem poller?_some {p : Poller} (h : l.poller? id = some p) : p ∈ l.pollers ∧ p.id = id := by
  have hid := List.find?_some h
  exact ⟨List.mem_of_find?_eq_some h, by simpa using hid⟩

/-- A poller takes its tick, or nothing happens. -/
theorem ask_cases (l : Live) (now id : Nat) :
    (∃ p, l.poller? id = some p ∧ p.phase = .resting ∧ p.ticker.deadline ≤ now ∧
      l.ask now id = (l.update id fun q => { q with ticker := p.ticker.next now, phase := .asking },
        [.sent id (selectAll p.table)])) ∨
    l.ask now id = (l, []) := by
  unfold ask
  split
  · rename_i pid table ticker hp
    split
    · rename_i hdue
      exact .inl ⟨_, hp, rfl, hdue, rfl⟩
    · exact .inr rfl
  · exact .inr rfl

/-- An answer arrives for a poller that waits for one, or nothing happens. -/
theorem receive_cases (l : Live) (id : Nat) (outcome : Outcome) :
    (∃ p, l.poller? id = some p ∧ p.phase = .asking ∧
      l.receive id outcome = l.update id fun p => { p with phase := .answered outcome }) ∨
    l.receive id outcome = l := by
  unfold receive
  split
  · rename_i pid table ticker hp
    exact .inl ⟨_, hp, rfl, rfl⟩
  · exact .inr rfl

/-- A poller shows its answer, if its subscription is active and the renderer returns, and stops
otherwise, or nothing happens. -/
theorem look_cases (l : Live) (renderer : Renderer) (id : Nat) :
    (∃ p outcome content, l.poller? id = some p ∧ p.phase = .answered outcome ∧
      l.isActive id = true ∧ outcome.shown renderer = some content ∧
      l.look renderer id =
        (l.update id fun p => { p with phase := .resting }, [.shown id content])) ∨
    (∃ p outcome, l.poller? id = some p ∧ p.phase = .answered outcome ∧
      (l.isActive id = false ∨ outcome.shown renderer = none) ∧
      l.look renderer id = (l.stop id, [])) ∨
    l.look renderer id = (l, []) := by
  unfold look
  split
  · rename_i pid table ticker outcome hp
    cases hshown : outcome.shown renderer with
    | none => exact .inr (.inl ⟨_, outcome, hp, rfl, .inr hshown, rfl⟩)
    | some content =>
      cases hactive : l.isActive id with
      | true => exact .inl ⟨_, outcome, content, hp, rfl, rfl, hshown, rfl⟩
      | false => exact .inr (.inl ⟨_, outcome, hp, rfl, .inl rfl, rfl⟩)
  · exact .inr (.inr rfl)

/-! Pollers leave the subscription alone. -/

@[simp] theorem ask_active (l : Live) (now id : Nat) : (l.ask now id).1.active = l.active := by
  obtain ⟨_, _, _, _, he⟩ | he := ask_cases l now id <;> simp [he]

@[simp] theorem receive_active (l : Live) (id : Nat) (outcome : Outcome) :
    (l.receive id outcome).active = l.active := by
  obtain ⟨_, _, _, he⟩ | he := receive_cases l id outcome <;> simp [he]

@[simp] theorem look_active (l : Live) (renderer : Renderer) (id : Nat) :
    (l.look renderer id).1.active = l.active := by
  obtain ⟨_, _, _, _, _, _, _, he⟩ | ⟨_, _, _, _, _, he⟩ | he := look_cases l renderer id <;>
    simp [he]

/-! ## Who sends and who shows -/

/-- Only a resting poller sends, when it takes a tick, and it asks for the rows of its table. -/
theorem sent_cases {m : Move} {query : String}
    (h : .sent id query ∈ (l.step renderer m).2) :
    ∃ now p, m = .ask now id ∧ p ∈ l.pollers ∧ p.id = id ∧ p.phase = .resting ∧
      query = selectAll p.table ∧
      (l.step renderer m).1 =
        l.update id fun q => { q with ticker := p.ticker.next now, phase := .asking } := by
  cases m with
  | subscribe now period table => simp [step] at h
  | release => simp [step] at h
  | receive i outcome => simp [step] at h
  | ask now i =>
    simp only [step] at h ⊢
    obtain ⟨p, hp, hphase, _, he⟩ | he := ask_cases l now i
    · rw [he] at h ⊢
      simp only [List.mem_singleton, Event.sent.injEq] at h
      obtain ⟨rfl, rfl⟩ := h
      obtain ⟨hmem, hid⟩ := poller?_some hp
      exact ⟨now, p, rfl, hmem, hid, hphase, rfl, rfl⟩
    · rw [he] at h
      simp at h
  | look i =>
    simp only [step] at h
    obtain ⟨_, _, _, _, _, _, _, he⟩ | ⟨_, _, _, _, _, he⟩ | he := look_cases l renderer i <;>
      rw [he] at h <;> simp at h

/-- Only a poller whose subscription is active shows something, and that is what the renderer makes
of the answer it looks at. -/
theorem shown_cases {m : Move} {content : Presentation}
    (h : .shown id content ∈ (l.step renderer m).2) :
    m = .look id ∧ l.isActive id = true ∧
      ∃ p outcome, p ∈ l.pollers ∧ p.id = id ∧ p.phase = .answered outcome ∧
        outcome.shown renderer = some content := by
  cases m with
  | subscribe now period table => simp [step] at h
  | release => simp [step] at h
  | receive i outcome => simp [step] at h
  | ask now i =>
    simp only [step] at h
    obtain ⟨_, _, _, _, he⟩ | he := ask_cases l now i <;> rw [he] at h <;> simp at h
  | look i =>
    simp only [step] at h
    obtain ⟨p, outcome, content', hp, hphase, hactive, hshown, he⟩ | ⟨_, _, _, _, _, he⟩ | he :=
      look_cases l renderer i
    · rw [he] at h
      simp only [List.mem_singleton, Event.shown.injEq] at h
      obtain ⟨rfl, rfl⟩ := h
      obtain ⟨hmem, hid⟩ := poller?_some hp
      exact ⟨rfl, hactive, p, outcome, hmem, hid, hphase, hshown⟩
    · rw [he] at h
      simp at h
    · rw [he] at h
      simp at h

/-! ## Subscriptions -/

theorem issued_le_step (m : Move) : l.issued ≤ (l.step renderer m).1.issued := by
  cases m with
  | subscribe now period table => exact Nat.le_succ _
  | release => exact Nat.le_refl _
  | ask now i =>
    obtain ⟨_, _, _, _, he⟩ | he := ask_cases l now i <;> simp [step, he]
  | receive i outcome =>
    obtain ⟨_, _, _, he⟩ | he := receive_cases l i outcome <;> simp [step, he]
  | look i =>
    obtain ⟨_, _, _, _, _, _, _, he⟩ | ⟨_, _, _, _, _, he⟩ | he := look_cases l renderer i <;>
      simp [step, he]

/-- A subscription that is active after a move is new or was active before it. -/
theorem active_of_step {m : Move} {sub : Subscription}
    (h : (l.step renderer m).1.active = some sub) (hid : sub.id ≤ l.issued) :
    l.active = some sub := by
  cases m with
  | subscribe now period table =>
    have hsub : ⟨l.issued + 1, table⟩ = sub := Option.some.inj h
    subst hsub
    exact absurd hid (Nat.not_succ_le_self _)
  | release => simp [step] at h
  | ask now i => simpa [step] using h
  | receive i outcome => simpa [step] using h
  | look i => simpa [step] using h

/-! ## Sound live views -/

/-- How the pollers, the subscription and the numbers given out fit together. -/
structure Sound (l : Live) : Prop where
  /-- no two pollers have the same number -/
  distinct : (l.pollers.map Poller.id).Nodup
  /-- every poller's number was given out -/
  numbered : ∀ p ∈ l.pollers, p.id ≤ l.issued
  /-- a poller of the active subscription fetches its table -/
  tended : ∀ sub, l.active = some sub → ∀ p ∈ l.pollers, p.id = sub.id → p.table = sub.table
  /-- a poller whose answer has not arrived is the one of the active subscription -/
  stray : ∀ p ∈ l.pollers, p.phase.isAnswered = false → l.active = some p.subscription

namespace Sound

theorem start : ({} : Live).Sound where
  distinct := List.nodup_nil
  numbered := by simp
  tended := by simp
  stray := by simp

theorem eq_of_id (h : l.Sound) {p q : Poller} (hp : p ∈ l.pollers) (hq : q ∈ l.pollers)
    (hid : p.id = q.id) : p = q :=
  List.inj_on_of_nodup_map h.distinct hp hq hid

theorem poller? (h : l.Sound) {p : Poller} (hp : p ∈ l.pollers) : l.poller? p.id = some p := by
  cases hfind : l.poller? p.id with
  | none =>
    have hnone := List.find?_eq_none.1 hfind p hp
    simp at hnone
  | some q =>
    obtain ⟨hq, hid⟩ := poller?_some hfind
    rw [h.eq_of_id hq hp hid]

/-- The poller of the active subscription watches its table. -/
theorem active_eq (h : l.Sound) {p : Poller} (hp : p ∈ l.pollers) (ha : l.isActive p.id = true) :
    l.active = some p.subscription := by
  obtain ⟨sub, hsub, hid⟩ := isActive_iff.1 ha
  rw [hsub, Poller.subscription, ← hid, h.tended sub hsub p hp hid.symm]

/-- A change of one poller that keeps its number and table keeps a live view sound, when the changed
poller has its answer or its subscription is active. -/
theorem update (h : l.Sound) {p : Poller} (hp : l.poller? id = some p) {change : Poller → Poller}
    (hid : ∀ q, (change q).id = q.id) (htable : ∀ q, (change q).table = q.table)
    (hstray : (change p).phase.isAnswered = false → l.active = some p.subscription) :
    (l.update id change).Sound := by
  obtain ⟨hmem, hpid⟩ := poller?_some hp
  have hids : (l.update id change).pollers.map Poller.id = l.pollers.map Poller.id := by
    simp only [Live.update, List.map_map]
    refine List.map_congr_left fun q _ => ?_
    by_cases hq : q.id = id <;> simp [hq, hid]
  constructor
  · rw [hids]
    exact h.distinct
  · intro q hq
    have hq' : q.id ∈ l.pollers.map Poller.id := hids ▸ List.mem_map_of_mem hq
    obtain ⟨q₀, hq₀, he⟩ := List.mem_map.1 hq'
    exact he ▸ h.numbered q₀ hq₀
  · intro sub hsub q hq hqid
    obtain ⟨q₀, hq₀, rfl⟩ := mem_update.1 hq
    by_cases hq₀id : q₀.id = id
    · rw [if_pos hq₀id, hid] at hqid
      rw [if_pos hq₀id, htable]
      exact h.tended sub hsub q₀ hq₀ hqid
    · rw [if_neg hq₀id] at hqid ⊢
      exact h.tended sub hsub q₀ hq₀ hqid
  · intro q hq hphase
    obtain ⟨q₀, hq₀, rfl⟩ := mem_update.1 hq
    by_cases hq₀id : q₀.id = id
    · have hpq : q₀ = p := h.eq_of_id hq₀ hmem (hq₀id.trans hpid.symm)
      subst hpq
      simp only [hq₀id, if_true] at hphase ⊢
      rw [update_active, Poller.subscription, hid, htable]
      exact hstray hphase
    · simp only [hq₀id, if_false] at hphase ⊢
      exact h.stray q₀ hq₀ hphase

theorem release (h : l.Sound) : l.release.Sound where
  distinct := (h.distinct).sublist (List.Sublist.map _ List.filter_sublist)
  numbered p hp := h.numbered p (mem_release.1 hp).1
  tended sub hsub := by simp at hsub
  stray p hp hphase := by
    obtain ⟨hmem, hidle | hanswered⟩ := mem_release.1 hp
    · have hactive : l.isActive p.id = true :=
        isActive_iff.2 ⟨_, h.stray p hmem hphase, rfl⟩
      rw [hactive] at hidle
      cases hidle
    · rw [hphase] at hanswered
      cases hanswered

theorem subscribe (h : l.Sound) (now period : Nat) (table : String) :
    (l.subscribe now period table).Sound := by
  have hr := h.release
  constructor
  · simp only [Live.subscribe, List.map_append, List.map_cons, List.map_nil]
    refine List.nodup_append.2 ⟨hr.distinct, List.nodup_singleton _, ?_⟩
    intro i hi j hj
    obtain ⟨p, hp, rfl⟩ := List.mem_map.1 hi
    have hle := hr.numbered p hp
    rw [List.mem_singleton.1 hj]
    exact Nat.ne_of_lt (Nat.lt_succ_of_le hle)
  · intro p hp
    obtain hp | rfl := mem_subscribe.1 hp
    · exact Nat.le_succ_of_le (hr.numbered p hp)
    · exact Nat.le_refl _
  · intro sub hsub p hp hid
    have hsub : ⟨l.issued + 1, table⟩ = sub := Option.some.inj hsub
    subst hsub
    obtain hp | rfl := mem_subscribe.1 hp
    · -- the pollers of earlier subscriptions have smaller numbers
      exact absurd (hid ▸ hr.numbered p hp) (Nat.not_succ_le_self _)
    · rfl
  · intro p hp hphase
    obtain hp | rfl := mem_subscribe.1 hp
    · have hnone := hr.stray p hp hphase
      simp at hnone
    · rfl

theorem stop (h : l.Sound) (id : Nat) : (l.stop id).Sound where
  distinct := (h.distinct).sublist (List.Sublist.map _ List.filter_sublist)
  numbered p hp := h.numbered p (mem_stop.1 hp).1
  tended sub hsub p hp := h.tended sub hsub p (mem_stop.1 hp).1
  stray p hp := h.stray p (mem_stop.1 hp).1

/-- Every move keeps a live view sound. -/
theorem step (h : l.Sound) (renderer : Renderer) (m : Move) : (l.step renderer m).1.Sound := by
  cases m with
  | subscribe now period table => exact h.subscribe now period table
  | release => exact h.release
  | ask now i =>
    simp only [Live.step]
    obtain ⟨p, hp, hphase, _, he⟩ | he := ask_cases l now i <;> rw [he]
    · refine h.update hp (fun _ => rfl) (fun _ => rfl) fun _ => ?_
      exact h.stray p (poller?_some hp).1 (by rw [hphase]; rfl)
    · exact h
  | receive i outcome =>
    simp only [Live.step]
    obtain ⟨p, hp, _, he⟩ | he := receive_cases l i outcome <;> rw [he]
    · exact h.update hp (fun _ => rfl) (fun _ => rfl) fun hphase => by cases hphase
    · exact h
  | look i =>
    simp only [Live.step]
    obtain ⟨p, _, _, hp, _, hactive, _, he⟩ | ⟨_, _, _, _, _, he⟩ | he :=
      look_cases l renderer i <;> rw [he]
    · obtain ⟨hmem, rfl⟩ := poller?_some hp
      exact h.update hp (fun _ => rfl) (fun _ => rfl) fun _ => h.active_eq hmem hactive
    · exact h.stop i
    · exact h

end Sound

/-! ## Where pollers come from -/

/-- How a poller that is there after a move came about. -/
inductive Comes (renderer : Renderer) (l : Live) (m : Move) (p : Poller) : Prop
  /-- it was there before -/
  | kept (hp : p ∈ l.pollers)
  /-- it belongs to a new subscription -/
  | opened (hid : p.id = l.issued + 1) (hphase : p.phase = .resting)
  /-- it has taken its tick -/
  | asked (q : Poller) (hq : q ∈ l.pollers) (hid : q.id = p.id) (htable : q.table = p.table)
      (hphase : p.phase = .asking) (now : Nat) (hm : m = .ask now p.id)
      (hsent : .sent p.id (selectAll p.table) ∈ (l.step renderer m).2)
  /-- its answer has arrived -/
  | received (q : Poller) (hq : q ∈ l.pollers) (hid : q.id = p.id) (htable : q.table = p.table)
      (hwait : q.phase = .asking) (outcome : Outcome) (hphase : p.phase = .answered outcome)
      (hm : m = .receive p.id outcome)
  /-- it has shown its answer -/
  | looked (q : Poller) (hq : q ∈ l.pollers) (hid : q.id = p.id) (htable : q.table = p.table)
      (outcome : Outcome) (hwait : q.phase = .answered outcome) (hphase : p.phase = .resting)
      (hreturns : outcome.shown renderer ≠ none) (hm : m = .look p.id)

/-- A poller that is there after an update of one poller was there before, or is that one. -/
theorem Sound.mem_update_cases (h : l.Sound) {f : Poller → Poller} {p q : Poller}
    (hq : l.poller? id = some q) (hp : p ∈ (l.update id f).pollers) :
    p ∈ l.pollers ∨ q ∈ l.pollers ∧ id = q.id ∧ p = f q := by
  obtain ⟨hqmem, rfl⟩ := poller?_some hq
  obtain ⟨r, hr, rfl⟩ := mem_update.1 hp
  by_cases hid : r.id = q.id
  · have hrq : r = q := h.eq_of_id hr hqmem hid
    subst hrq
    exact .inr ⟨hr, rfl, if_pos rfl⟩
  · rw [if_neg hid]
    exact .inl hr

theorem Sound.comes (h : l.Sound) {m : Move} {p : Poller}
    (hp : p ∈ (l.step renderer m).1.pollers) : Comes renderer l m p := by
  cases m with
  | subscribe now period table =>
    obtain hp | rfl := mem_subscribe.1 hp
    · exact .kept (mem_release.1 hp).1
    · exact .opened rfl rfl
  | release => exact .kept (mem_release.1 hp).1
  | ask now i =>
    simp only [Live.step] at hp
    obtain ⟨q, hq, _, _, he⟩ | he := ask_cases l now i <;> rw [he] at hp
    · obtain hold | ⟨hqmem, rfl, rfl⟩ := h.mem_update_cases hq hp
      · exact .kept hold
      · exact .asked q hqmem rfl rfl rfl now rfl (by simp [Live.step, he])
    · exact .kept hp
  | receive i outcome =>
    simp only [Live.step] at hp
    obtain ⟨q, hq, hwait, he⟩ | he := receive_cases l i outcome <;> rw [he] at hp
    · obtain hold | ⟨hqmem, rfl, rfl⟩ := h.mem_update_cases hq hp
      · exact .kept hold
      · exact .received q hqmem rfl rfl hwait outcome rfl rfl
    · exact .kept hp
  | look i =>
    simp only [Live.step] at hp
    obtain ⟨q, outcome, content, hq, hwait, _, hshown, he⟩ | ⟨_, _, _, _, _, he⟩ | he :=
      look_cases l renderer i <;> rw [he] at hp
    · obtain hold | ⟨hqmem, rfl, rfl⟩ := h.mem_update_cases hq hp
      · exact .kept hold
      · exact .looked q hqmem rfl rfl outcome hwait rfl (by simp [hshown]) rfl
    · exact .kept (mem_stop.1 hp).1
    · exact .kept hp

/-! ## Runs -/

theorem exec_append (a b : List Move) :
    l.exec renderer (a ++ b) = (((l.exec renderer a).1.exec renderer b).1,
      (l.exec renderer a).2 ++ ((l.exec renderer a).1.exec renderer b).2) := by
  induction a generalizing l with
  | nil => rfl
  | cons m a ih => simp [exec, ih, List.append_assoc]

theorem exec_concat (a : List Move) (m : Move) :
    (l.exec renderer (a ++ [m])).1 = ((l.exec renderer a).1.step renderer m).1 := by
  rw [exec_append]
  rfl

/-- What can be seen of a run is what can be seen of one of its moves. -/
theorem mem_exec {moves : List Move} {e : Event} :
    e ∈ (l.exec renderer moves).2 ↔
      ∃ a m b, moves = a ++ m :: b ∧ e ∈ ((l.exec renderer a).1.step renderer m).2 := by
  induction moves generalizing l with
  | nil => simp [exec]
  | cons m moves ih =>
    simp only [exec, List.mem_append, ih]
    constructor
    · rintro (he | ⟨a, m', b, rfl, he⟩)
      · exact ⟨[], m, moves, rfl, he⟩
      · exact ⟨m :: a, m', b, rfl, he⟩
    · rintro ⟨a, m', b, hab, he⟩
      cases a with
      | nil =>
        obtain ⟨rfl, rfl⟩ := List.cons.inj hab
        exact .inl he
      | cons m₀ a =>
        obtain ⟨rfl, rfl⟩ := List.cons.inj hab
        exact .inr ⟨a, m', b, rfl, he⟩

theorem issued_le_exec (moves : List Move) : l.issued ≤ (l.exec renderer moves).1.issued := by
  induction moves generalizing l with
  | nil => exact Nat.le_refl _
  | cons m moves ih => exact Nat.le_trans (issued_le_step m) ih

/-- Every run keeps a live view sound. -/
theorem Sound.exec (h : l.Sound) (renderer : Renderer) (moves : List Move) :
    (l.exec renderer moves).1.Sound := by
  induction moves generalizing l with
  | nil => exact h
  | cons m moves ih => exact ih (h.step renderer m)

/-- A subscription that is active after a run, and whose number was given out before it, was active
before it. So a subscription is active without a break, from when it is taken until it is handed
back for good. -/
theorem active_of_exec {moves : List Move} {sub : Subscription}
    (h : (l.exec renderer moves).1.active = some sub) (hid : sub.id ≤ l.issued) :
    l.active = some sub := by
  induction moves generalizing l with
  | nil => exact h
  | cons m moves ih => exact active_of_step (ih h (Nat.le_trans hid (issued_le_step m))) hid

end Live

end QueryConsole
