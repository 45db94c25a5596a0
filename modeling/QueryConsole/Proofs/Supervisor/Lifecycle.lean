import Mathlib.Data.List.Induction
import QueryConsole.Proofs.Supervisor.Invariant

/-!
# The life of the daemon

What a whole run of supervision does, for any calls that come in and go on in any order and any ends
of the processes. A turn of a start is the only thing that launches the daemon, and what the daemon
is doing when the start gets the lock decides whether the start is refused.

## Main definitions

- `Supervisor.Goes`: how a call goes on in a turn of its own
- `Supervisor.Launch`: the turns in which the daemon is to be spawned
- `Supervisor.after`, `Supervisor.record`: a supervisor after a run from its beginning, and the
  events of the run
- `Supervisor.Lifecycle`: the life of the daemon in a run

## Main results

- `Supervisor.sound_after`: every run keeps a supervisor sound
- `Supervisor.refused_iff`, `Supervisor.obtained_of_refused`: which starts are refused
- `daemon_lifecycle`: the life of the daemon in every run
-/

namespace QueryConsole

namespace Supervisor

variable {s : Supervisor} {past : List Event} {call child : Nat} {c : Call} {spawn : Spawn}
  {result : Supervisor × List Event}

/-! ## Changes of the state -/

theorem Called.leads (hturn : Called s call spawn result) (h : Sound s past) :
    State.Leads s.state (writes result.2) result.1.state := by
  cases hturn with
  | waits hblocked => exact .refl
  | refused hcall hlock hstate => exact .refl
  | joins hcall hlock hstate hhandle => exact .refl
  | launches hcall hready =>
    rw [(hready.alone h.lock hcall).2]
    exact .cons .starts (.cons .runs .refl)
  | fails hcall hready =>
    rw [(hready.alone h.lock hcall).2]
    exact .cons .starts (.cons .fails .refl)
  | leaves hcall hlock hhandle => exact .refl
  | tells hcall hlock hhandle =>
    by_cases hrunning : s.state = .running
    · simp only [tell, hrunning, if_true]
      exact .cons .stops .refl
    · simp only [tell, hrunning, if_false]
      exact .refl
  | collects hcall hresult => exact .refl

theorem Watched.leads (hturn : Watched s child result) (h : Sound s past) :
    State.Leads s.state (writes result.2) result.1.state := by
  cases hturn with
  | waits => exact .refl
  | asks hchild hwatch htold => exact .refl
  | reaps hchild hunreaped hended =>
    have hflag : s.unreaped[child]? = some true := by
      simp [unreaped, hchild, hunreaped]
    obtain hstate | hstate := (h.life.reap hflag).1
    · rw [hstate]
      exact .cons .exits .refl
    · rw [hstate]
      exact .cons .ends .refl

theorem Expired.leads (hturn : Expired s child result) :
    State.Leads s.state (writes result.2) result.1.state := by
  cases hturn with
  | waits => exact .refl
  | kills hchild hwatch => exact .refl

/-- In a turn the state changes only as it may. -/
theorem Sound.leads (h : Sound s past) (m : Move) :
    State.Leads s.state (writes (s.turn m).2) (s.turn m).1.state := by
  cases m with
  | start =>
    rw [turn_of_rests rfl]
    exact .refl
  | stop =>
    rw [turn_of_rests rfl]
    exact .refl
  | call call spawn => exact (Supervisor.called h.settled call spawn).leads h
  | exit child status =>
    rw [turn_of_rests rfl]
    exact .refl
  | watch child wordFirst => exact (Supervisor.watched h.settled child wordFirst).leads h
  | expire child => exact (Supervisor.expired s child).leads

/-! ## Calls -/

theorem Called.calls (hturn : Called s call spawn result) :
    ∃ d, result.1.calls = s.calls.set call d ∨ result.1.calls = s.calls := by
  cases hturn with
  | waits hblocked => exact ⟨.starting, .inr rfl⟩
  | _ => exact ⟨_, .inl rfl⟩

/-- What a turn does to the calls: one comes in, one of them goes on, or nothing. -/
theorem calls_turn (h : s.Settled) (m : Move) :
    (∃ c, (c = .starting ∨ c = .stopping) ∧ (s.turn m).1.calls = s.calls ++ [c]) ∨
    (∃ call spawn d, m = .call call spawn ∧ (s.turn m).1.calls = s.calls.set call d) ∨
    (s.turn m).1.calls = s.calls := by
  cases m with
  | start =>
    rw [turn_of_rests rfl]
    exact .inl ⟨_, .inl rfl, rfl⟩
  | stop =>
    rw [turn_of_rests rfl]
    exact .inl ⟨_, .inr rfl, rfl⟩
  | call call spawn =>
    obtain ⟨d, hset | hsame⟩ := (called h call spawn).calls
    · exact .inr (.inl ⟨call, spawn, d, rfl, hset⟩)
    · exact .inr (.inr hsame)
  | exit child status =>
    rw [turn_of_rests rfl]
    exact .inr (.inr rfl)
  | watch child wordFirst =>
    refine .inr (.inr ?_)
    have hturn := watched h child wordFirst
    generalize s.turn (.watch child wordFirst) = result at hturn ⊢
    cases hturn <;> rfl
  | expire child =>
    refine .inr (.inr ?_)
    have hturn := expired s child
    generalize s.turn (.expire child) = result at hturn ⊢
    cases hturn <;> rfl

/-- A move that is not a turn of a call leaves it where it is. -/
theorem getElem?_turn_of_ne (h : s.Settled) {m : Move} (hcall : s.calls[call]? = some c)
    (hm : ∀ spawn, m ≠ .call call spawn) : (s.turn m).1.calls[call]? = some c := by
  obtain ⟨hlt, _⟩ := List.getElem?_eq_some_iff.1 hcall
  obtain ⟨d, _, he⟩ | ⟨other, spawn, d, rfl, he⟩ | he := calls_turn h m
  · rw [he, List.getElem?_append_left hlt, hcall]
  · have hne : other ≠ call := by
      rintro rfl
      exact hm spawn rfl
    rw [he, List.getElem?_set_ne hne, hcall]
  · rw [he, hcall]

/-- A call that comes in waits for the lock. -/
theorem eq_of_getElem?_turn (h : s.Settled) {m : Move} (hnone : s.calls[call]? = none)
    (hcall : (s.turn m).1.calls[call]? = some c) : c = .starting ∨ c = .stopping := by
  have hle : s.calls.length ≤ call := List.getElem?_eq_none_iff.1 hnone
  obtain ⟨d, hd, he⟩ | ⟨other, spawn, d, rfl, he⟩ | he := calls_turn h m
  · rw [he, List.getElem?_append_right hle] at hcall
    rw [List.mem_singleton.1 (List.mem_of_getElem? hcall)]
    exact hd
  · rw [he, List.getElem?_eq_none (by simpa using hle)] at hcall
    cases hcall
  · rw [he, hnone] at hcall
    cases hcall

/-- How a call goes on in a turn of its own. -/
inductive Goes (s : Supervisor) : Call → Spawn → Call → Prop
  | waits {c : Call} {spawn : Spawn} (h : s.Blocked c) : Goes s c spawn c
  | refused {spawn : Spawn} (hlock : s.locked = false) (hstate : s.state ≠ .stopped) :
    Goes s .starting spawn (.started (.error (.active s.state)))
  | joins {spawn : Spawn} {stale : Nat} (hlock : s.locked = false) (hstate : s.state = .stopped) :
    Goes s .starting spawn (.joining stale)
  | launches {c : Call} (hready : s.Ready c) : Goes s c (.ok ()) (.started (.ok ()))
  | fails {c : Call} {fault : SpawnFault} (hready : s.Ready c) :
    Goes s c (.error fault) (.started (.error (.spawn fault)))
  | leaves {spawn : Spawn} (hlock : s.locked = false) : Goes s .stopping spawn (.stopped none)
  | tells {spawn : Spawn} {child : Nat} (hlock : s.locked = false) :
    Goes s .stopping spawn (.awaiting child)
  | collects {spawn : Spawn} {child : Nat} {status : ExitStatus}
    (hresult : s.result? child = some status) :
    Goes s (.awaiting child) spawn (.stopped (some status))

theorem Called.goes (hturn : Called s call spawn result) (hcall : s.calls[call]? = some c) :
    ∃ d, result.1.calls[call]? = some d ∧ s.Goes c spawn d := by
  have hset : ∀ d, (s.calls.set call d)[call]? = some d := by
    obtain ⟨hlt, _⟩ := List.getElem?_eq_some_iff.1 hcall
    exact fun d => List.getElem?_set_self hlt
  cases hturn with
  | waits hblocked => exact ⟨c, hcall, .waits (hblocked c hcall)⟩
  | refused hcall' hlock hstate =>
    cases hcall.symm.trans hcall'
    exact ⟨_, hset _, .refused hlock hstate⟩
  | joins hcall' hlock hstate hhandle =>
    cases hcall.symm.trans hcall'
    exact ⟨_, hset _, .joins hlock hstate⟩
  | launches hcall' hready =>
    cases hcall.symm.trans hcall'
    exact ⟨_, hset _, .launches hready⟩
  | fails hcall' hready =>
    cases hcall.symm.trans hcall'
    exact ⟨_, hset _, .fails hready⟩
  | leaves hcall' hlock hhandle =>
    cases hcall.symm.trans hcall'
    exact ⟨_, hset _, .leaves hlock⟩
  | tells hcall' hlock hhandle =>
    cases hcall.symm.trans hcall'
    exact ⟨_, hset _, .tells hlock⟩
  | collects hcall' hresult =>
    cases hcall.symm.trans hcall'
    exact ⟨_, hset _, .collects hresult⟩

/-- In a turn a call stays where it is, or goes on if the turn is its own. -/
theorem goes_turn (h : s.Settled) (m : Move) (hcall : s.calls[call]? = some c) :
    (s.turn m).1.calls[call]? = some c ∨
      ∃ spawn d, m = .call call spawn ∧ (s.turn m).1.calls[call]? = some d ∧ s.Goes c spawn d := by
  by_cases hm : ∃ spawn, m = .call call spawn
  · obtain ⟨spawn, rfl⟩ := hm
    obtain ⟨d, hd, hgoes⟩ := (called h call spawn).goes hcall
    exact .inr ⟨spawn, d, rfl, hd, hgoes⟩
  · exact .inl (getElem?_turn_of_ne h hcall fun spawn he => hm ⟨spawn, he⟩)

/-- A start that has found the daemon stopped: it waits for an earlier watch, has launched the
daemon or could not spawn it. -/
inductive Call.IsAdmitted : Call → Prop
  | joining {stale : Nat} : IsAdmitted (.joining stale)
  | launched : IsAdmitted (.started (.ok ()))
  | unlaunched {fault : SpawnFault} : IsAdmitted (.started (.error (.spawn fault)))

theorem Goes.of_started {outcome : Except StartFault Unit} {d : Call}
    (h : s.Goes (.started outcome) spawn d) : d = .started outcome := by
  cases h with
  | waits h => rfl
  | launches hready => cases hready
  | fails hready => cases hready

theorem Goes.isAdmitted {d : Call} (h : s.Goes c spawn d) (hc : c.IsAdmitted) : d.IsAdmitted := by
  cases h with
  | waits h => exact hc
  | refused hlock hstate => cases hc
  | joins hlock hstate => exact .joining
  | launches hready => exact .launched
  | fails hready => exact .unlaunched
  | leaves hlock => cases hc
  | tells hlock => cases hc
  | collects hresult => cases hc

/-! ## Launches -/

/-- A turn of a start in which the daemon is to be spawned: it is spawned and the start succeeds, or
it is not and the start fails. -/
inductive Launch (s : Supervisor) : Move → Prop
  | spawned {call : Nat}
    (hevents : (s.turn (.call call (.ok ()))).2 =
      [.state .starting, .spawned s.children.length, .state .running])
    (hcall : (s.turn (.call call (.ok ()))).1.calls[call]? = some (.started (.ok ()))) :
    Launch s (.call call (.ok ()))
  | failed {call : Nat} {fault : SpawnFault}
    (hevents : (s.turn (.call call (.error fault))).2 = [.state .starting, .state .stopped])
    (hcall : (s.turn (.call call (.error fault))).1.calls[call]? =
      some (.started (.error (.spawn fault)))) :
    Launch s (.call call (.error fault))

theorem Called.launch (hturn : Called s call spawn result)
    (hresult : s.turn (.call call spawn) = result)
    (h : .state .starting ∈ result.2 ∨ ∃ child, .spawned child ∈ result.2) :
    Launch s (.call call spawn) := by
  cases hturn with
  | waits hblocked => simp at h
  | refused hcall hlock hstate => simp at h
  | joins hcall hlock hstate hhandle => simp at h
  | launches hcall hready =>
    refine .spawned (by rw [hresult]) ?_
    rw [hresult]
    exact List.getElem?_set_self (List.getElem?_eq_some_iff.1 hcall).1
  | fails hcall hready =>
    refine .failed (by rw [hresult]) ?_
    rw [hresult]
    exact List.getElem?_set_self (List.getElem?_eq_some_iff.1 hcall).1
  | leaves hcall hlock hhandle => simp at h
  | tells hcall hlock hhandle =>
    by_cases hrunning : s.state = .running <;> simp [hrunning] at h
  | collects hcall hresult => simp at h

/-- Nothing but a launch writes that the daemon is starting or spawns it. -/
theorem launch_of_mem (h : s.Settled) {m : Move}
    (hmem : .state .starting ∈ (s.turn m).2 ∨ ∃ child, .spawned child ∈ (s.turn m).2) :
    Launch s m := by
  cases m with
  | start =>
    rw [turn_of_rests rfl] at hmem
    simp [step] at hmem
  | stop =>
    rw [turn_of_rests rfl] at hmem
    simp [step] at hmem
  | call call spawn => exact (called h call spawn).launch rfl hmem
  | exit child status =>
    rw [turn_of_rests rfl] at hmem
    simp [step] at hmem
  | watch child wordFirst =>
    have hturn := watched h child wordFirst
    generalize s.turn (.watch child wordFirst) = result at hturn hmem
    cases hturn <;> simp at hmem
  | expire child =>
    have hturn := expired s child
    generalize s.turn (.expire child) = result at hturn hmem
    cases hturn <;> simp at hmem

/-! ## Runs -/

/-- A supervisor after a run from its beginning. -/
def after (moves : List Move) : Supervisor := (run {} moves).1

/-- The events of a run from the beginning. -/
def record (moves : List Move) : List Event := (run {} moves).2

theorem run_append_singleton (s : Supervisor) (moves : List Move) (m : Move) :
    s.run (moves ++ [m]) = (((s.run moves).1.turn m).1,
      (s.run moves).2 ++ ((s.run moves).1.turn m).2) := by
  induction moves generalizing s with
  | nil => simp [run]
  | cons first moves ih => simp [run, ih, List.append_assoc]

theorem after_append_singleton (moves : List Move) (m : Move) :
    after (moves ++ [m]) = ((after moves).turn m).1 := by
  rw [after, run_append_singleton]
  rfl

theorem record_append_singleton (moves : List Move) (m : Move) :
    record (moves ++ [m]) = record moves ++ ((after moves).turn m).2 := by
  rw [record, run_append_singleton]
  rfl

theorem sound_after (moves : List Move) : Sound (after moves) (record moves) := by
  induction moves using List.reverseRecOn with
  | nil => exact .start
  | append_singleton moves m ih =>
    rw [after_append_singleton, record_append_singleton]
    exact ih.turn m

theorem leads_after (moves : List Move) :
    State.Leads .stopped (writes (record moves)) (after moves).state := by
  induction moves using List.reverseRecOn with
  | nil => exact .refl
  | append_singleton moves m ih =>
    rw [after_append_singleton, record_append_singleton, writes, List.filterMap_append]
    exact ih.append ((sound_after moves).leads m)

/-- A start that is over stays as it is. -/
theorem started_after {moves : List Move} {outcome : Except StartFault Unit}
    (h : (after moves).calls[call]? = some (.started outcome)) (later : List Move) :
    (after (moves ++ later)).calls[call]? = some (.started outcome) := by
  induction later using List.reverseRecOn with
  | nil => simpa using h
  | append_singleton later m ih =>
    rw [← List.append_assoc, after_append_singleton]
    obtain hsame | ⟨spawn, d, rfl, hd, hgoes⟩ := goes_turn (sound_after _).settled m ih
    · exact hsame
    · rw [hd, hgoes.of_started]

/-- A start that has found the daemon stopped is not refused later. -/
theorem admitted_after {moves : List Move} (h : (after moves).calls[call]? = some c)
    (hc : c.IsAdmitted) (later : List Move) :
    ∃ d, (after (moves ++ later)).calls[call]? = some d ∧ d.IsAdmitted := by
  induction later using List.reverseRecOn with
  | nil => exact ⟨c, by simpa using h, hc⟩
  | append_singleton later m ih =>
    obtain ⟨d, hd, hadmitted⟩ := ih
    rw [← List.append_assoc, after_append_singleton]
    obtain hsame | ⟨spawn, e, rfl, he, hgoes⟩ := goes_turn (sound_after _).settled m hd
    · exact ⟨d, hsame, hadmitted⟩
    · exact ⟨e, he, hgoes.isAdmitted hadmitted⟩

/-! ## Refusals -/

/-- A start gets the lock in its next turn. -/
def Obtains (s : Supervisor) (call : Nat) : Prop :=
  s.calls[call]? = some .starting ∧ s.locked = false

/-- What becomes of a start that gets the lock. -/
theorem obtains_cases (h : Sound s past) (hobtains : s.Obtains call) (spawn : Spawn) :
    (s.state ≠ .stopped ∧ (s.turn (.call call spawn)).1.calls[call]? =
        some (.started (.error (.active s.state)))) ∨
      (s.state = .stopped ∧ ∃ d, (s.turn (.call call spawn)).1.calls[call]? = some d ∧
        d.IsAdmitted) := by
  obtain ⟨hcall, hlock⟩ := hobtains
  obtain ⟨d, hd, hgoes⟩ := (called h.settled call spawn).goes hcall
  cases hgoes with
  | waits hblocked =>
    rw [show s.locked = true from hblocked] at hlock
    cases hlock
  | refused hlock hstate => exact .inl ⟨hstate, hd⟩
  | joins hlock hstate => exact .inr ⟨hstate, _, hd, .joining⟩
  | launches hready => exact .inr ⟨(hready.alone h.lock hcall).2, _, hd, .launched⟩
  | fails hready => exact .inr ⟨(hready.alone h.lock hcall).2, _, hd, .unlaunched⟩

/-- A start that gets the lock is refused, then or ever after, exactly if the daemon is not stopped
at that moment. -/
theorem refused_iff {moves : List Move} (hobtains : (after moves).Obtains call) (spawn : Spawn)
    (later : List Move) (state : State) :
    (after (moves ++ .call call spawn :: later)).calls[call]? =
        some (.started (.error (.active state))) ↔
      state = (after moves).state ∧ (after moves).state ≠ .stopped := by
  -- the turn in which it gets the lock decides, and nothing later changes that
  have hsplit : moves ++ .call call spawn :: later = (moves ++ [.call call spawn]) ++ later := by
    rw [List.append_assoc, List.singleton_append]
  rw [hsplit]
  obtain ⟨hactive, hcall⟩ | ⟨hstopped, d, hd, hadmitted⟩ :=
    obtains_cases (sound_after moves) hobtains spawn
  · rw [← after_append_singleton] at hcall
    rw [started_after hcall later]
    simp [hactive, eq_comm]
  · rw [← after_append_singleton] at hd
    obtain ⟨e, he, hadmitted⟩ := admitted_after hd hadmitted later
    rw [he]
    refine iff_of_false ?_ fun h => h.2 hstopped
    rintro h
    cases h
    cases hadmitted

/-- A start that is refused has had the lock, and the daemon was not stopped then. -/
theorem obtained_of_refused {moves : List Move} {state : State}
    (h : (after moves).calls[call]? = some (.started (.error (.active state)))) :
    ∃ before spawn later, moves = before ++ .call call spawn :: later ∧
      (after before).Obtains call ∧ (after before).state = state ∧ state ≠ .stopped := by
  induction moves using List.reverseRecOn with
  | nil => simp [after, run] at h
  | append_singleton moves m ih =>
    -- a start that was refused before the last turn was refused in an earlier one
    have hearlier : (after moves).calls[call]? = some (.started (.error (.active state))) →
        ∃ before spawn later, moves ++ [m] = before ++ .call call spawn :: later ∧
          (after before).Obtains call ∧ (after before).state = state ∧ state ≠ .stopped := by
      intro hcall
      obtain ⟨before, spawn, later, rfl, hobtains⟩ := ih hcall
      exact ⟨before, spawn, later ++ [m], by simp, hobtains⟩
    have hsettled := (sound_after moves).settled
    rw [after_append_singleton] at h
    cases hcall : (after moves).calls[call]? with
    | none => obtain he | he := eq_of_getElem?_turn hsettled hcall h <;> cases he
    | some c =>
      obtain hsame | ⟨spawn, d, rfl, hd, hgoes⟩ := goes_turn hsettled m hcall
      · cases hsame.symm.trans h
        exact hearlier hcall
      · cases hd.symm.trans h
        cases hgoes with
        | waits hblocked => exact hearlier hcall
        | refused hlock hstate => exact ⟨moves, spawn, [], rfl, ⟨hcall, hlock⟩, rfl, hstate⟩

/-! ## The whole life -/

theorem Life.count_true {state : State} {flags : List Bool} {fates : List Fate}
    (h : Life state flags fates) : flags.count true = if state = .stopped then 0 else 1 := by
  cases h with
  | stopped => simp [List.count_replicate]
  | alive h => obtain rfl | rfl := h <;> simp [List.count_append, List.count_replicate]

theorem Life.fates_eq {state : State} {flags : List Bool} {fates : List Fate}
    (h : Life state flags fates) : fates =
      if state = .stopped then lives flags.length
      else lives (flags.length - 1) ++ [.spawned (flags.length - 1)] := by
  cases h with
  | stopped => simp
  | alive h => obtain rfl | rfl := h <;> simp

theorem countP_isUnreaped (moves : List Move) :
    (after moves).children.countP Child.isUnreaped =
      if (after moves).state = .stopped then 0 else 1 := by
  rw [← (sound_after moves).life.count_true, unreaped, List.count, List.countP_map]
  congr 1
  funext c
  simp

/-- The life of the daemon in a run from the beginning. -/
structure Lifecycle (moves : List Move) : Prop where
  /-- one process is not reaped exactly if the daemon is not stopped -/
  alive : (after moves).state ≠ .stopped ↔ (after moves).children.countP Child.isUnreaped = 1
  one : (after moves).children.countP Child.isUnreaped ≤ 1
  /-- at no moment have there been two -/
  fates : Supervisor.fates (record moves) =
    if (after moves).state = .stopped then lives (after moves).children.length
    else lives ((after moves).children.length - 1) ++
      [.spawned ((after moves).children.length - 1)]
  changes : State.Leads .stopped (writes (record moves)) (after moves).state
  /-- whatever happens next, nothing but a start launches the daemon -/
  launch : ∀ m, (.state .starting ∈ ((after moves).turn m).2 ∨
    ∃ child, .spawned child ∈ ((after moves).turn m).2) → Launch (after moves) m
  /-- as many processes were spawned as starts have succeeded -/
  launches : (after moves).calls.countP Call.isLaunched = (after moves).children.length
  refused : ∀ call spawn later state, (after moves).Obtains call →
    ((after (moves ++ .call call spawn :: later)).calls[call]? =
        some (.started (.error (.active state))) ↔
      state = (after moves).state ∧ (after moves).state ≠ .stopped)
  obtained : ∀ call state,
    (after moves).calls[call]? = some (.started (.error (.active state))) →
      ∃ before spawn later, moves = before ++ .call call spawn :: later ∧
        (after before).Obtains call ∧ (after before).state = state ∧ state ≠ .stopped

end Supervisor

/-- The life of the daemon, whatever calls come in and go on in whatever order, whatever comes of
spawning it and whenever its process ends. At every wait the daemon is stopped, or exactly one
process is not reaped; each process is reaped before the next one is spawned. The state changes only
as it may. Only a start spawns a process, and then it succeeds; so nothing launches the daemon again
when it has ended. A start is refused exactly if the daemon is not stopped when the start gets the
lock. -/
theorem daemon_lifecycle (moves : List Supervisor.Move) : Supervisor.Lifecycle moves where
  alive := by
    rw [Supervisor.countP_isUnreaped]
    split <;> simp_all
  one := by
    rw [Supervisor.countP_isUnreaped]
    split <;> simp
  fates := by
    have hfates := (Supervisor.sound_after moves).life.fates_eq
    rwa [Supervisor.unreaped, List.length_map] at hfates
  changes := Supervisor.leads_after moves
  launch _ h := Supervisor.launch_of_mem (Supervisor.sound_after moves).settled h
  launches := (Supervisor.sound_after moves).launches
  refused _ spawn later state h := Supervisor.refused_iff h spawn later state
  obtained _ _ h := Supervisor.obtained_of_refused h

/-- A process that ends by itself is reaped, and another one takes a start of its own, which first
waits for the watch over the old one. -/
example : Supervisor.record [.start, .call 0 (.ok ()), .exit 0 (.code 1), .watch 0 false, .start,
    .call 1 (.ok ()), .call 1 (.ok ())] =
      [.state .starting, .spawned 0, .state .running, .reaped 0 (.code 1), .state .stopped,
        .state .starting, .spawned 1, .state .running] := by
  decide

end QueryConsole
