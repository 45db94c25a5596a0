import QueryConsole.Proofs.Supervisor.Watches

/-!
# Calls step by step

A call may be interrupted between any two of its steps. Whoever holds the lock knows how the state,
the handle and the watches fit together at each step, and nothing but the end of the last process
changes that meanwhile. A call to stop the daemon looks at the state before it writes it; if the
daemon ends in between, the call overwrites the last word on it.

## Main definitions

- `Supervisor.Rest`: what calls leave behind
- `Supervisor.Launching`, `Supervisor.Halting`: what is so at each step of a call

## Main results

- `Supervisor.Launching.passed`, `Supervisor.Halting.passed`: what a step aside from a call means
  for it
- `Supervisor.Launching.step`, `Supervisor.Halting.step`: each step of a call leads to the next one
-/

namespace QueryConsole

namespace Supervisor

variable {s t : Supervisor} {call child : Nat} {c : Call} {stuck : Bool}

/-! ## Between calls -/

/-- Whether a call holds the lock. -/
def Call.works : Call → Bool
  | .starting | .started _ | .stopping | .stopped _ => false
  | _ => true

/-- Whether a call is over. -/
def Call.isOver : Call → Bool
  | .started _ | .stopped _ => true
  | _ => false

/-- What calls leave behind. -/
inductive Rest (s : Supervisor) : Prop
  /-- no daemon has been started since the last one was stopped -/
  | free {n : Nat} (h : s.At .stopped none (dones n))
  | running {n : Nat} (h : s.At .running (some n) (dones n ++ [.busy]))
  /-- the daemon has ended by itself -/
  | ended {n : Nat} (h : s.At .stopped (some n) (dones (n + 1)))
  /-- the word that the daemon is being stopped has come too late, and stays -/
  | stuck {n : Nat} (h : s.At .stopping none (dones n))

theorem Rest.passed (h : s.Rest) (hpassed : Passed s t) :
    t.Rest ∧ (t.state = .stopping ↔ s.state = .stopping) := by
  cases h with
  | free h =>
    have ht := h.dones_passed hpassed
    exact ⟨.free ht, by rw [ht.state, h.state]⟩
  | running h =>
    obtain ht | ht := h.busy_passed hpassed
    · exact ⟨.running ht, by rw [ht.state, h.state]⟩
    · exact ⟨.ended ht, by simp [ht.state, h.state]⟩
  | ended h =>
    have ht := h.dones_passed hpassed
    exact ⟨.ended ht, by rw [ht.state, h.state]⟩
  | stuck h =>
    have ht := h.dones_passed hpassed
    exact ⟨.stuck ht, by rw [ht.state, h.state]⟩

theorem Rest.dones (h : s.Rest) (hstate : s.state = .stopped) :
    ∃ handle n, s.At .stopped handle (Supervisor.dones n) := by
  cases h with
  | free h => exact ⟨_, _, h⟩
  | running h => cases h.state.symm.trans hstate
  | ended h => exact ⟨_, _, h⟩
  | stuck h => cases h.state.symm.trans hstate

/-- A call makes a step: where it stands now, and whether it holds the lock. -/
structure Steps (s : Supervisor) (call : Nat) (d : Call) (t : Supervisor) : Prop where
  calls : t.calls = s.calls.set call d
  locked : t.locked = d.works

theorem Steps.refl (hcall : s.calls[call]? = some c) (hlock : s.locked = c.works) :
    Steps s call c s where
  calls := by
    obtain ⟨hlt, hget⟩ := List.getElem?_eq_some_iff.1 hcall
    rw [← hget, List.set_getElem_self]
  locked := hlock

/-! ### Starting -/

/-- What is so at each step of a call that starts the daemon. -/
inductive Launching (s : Supervisor) : Call → Prop
  | starting (h : s.Rest) : Launching s .starting
  | checking (h : s.Rest) : Launching s .checking
  | clearing {handle : Option Nat} {n : Nat} (h : s.At .stopped handle (dones n)) :
    Launching s .clearing
  | joining {stale n : Nat} (h : s.At .stopped none (dones n)) : Launching s (.joining stale)
  | marking {n : Nat} (h : s.At .stopped none (dones n)) : Launching s .marking
  | spawning {n : Nat} (h : s.At .starting none (dones n)) : Launching s .spawning
  | failing {fault : SpawnFault} {n : Nat} (h : s.At .starting none (dones n)) :
    Launching s (.failing fault)
  | announcing {n : Nat} (h : s.At .starting none (dones n ++ [.idle])) :
    Launching s (.announcing n)
  | keeping {n : Nat} (h : s.At .running none (dones n ++ [.idle])) : Launching s (.keeping n)
  | refused {state : State} (h : s.Rest) : Launching s (.started (.error (.active state)))
  | failed {fault : SpawnFault} {n : Nat} (h : s.At .stopped none (dones n)) :
    Launching s (.started (.error (.spawn fault)))
  | launched {child : Nat} (h : s.Rest) (hhandle : s.handle = some child) :
    Launching s (.started (.ok ()))

theorem Launching.passed (h : s.Launching c) (hpassed : Passed s t) : t.Launching c := by
  cases h with
  | starting h => exact .starting (h.passed hpassed).1
  | checking h => exact .checking (h.passed hpassed).1
  | clearing h => exact .clearing (h.dones_passed hpassed)
  | joining h => exact .joining (h.dones_passed hpassed)
  | marking h => exact .marking (h.dones_passed hpassed)
  | spawning h => exact .spawning (h.dones_passed hpassed)
  | failing h => exact .failing (h.dones_passed hpassed)
  | announcing h => exact .announcing (h.idle_passed hpassed)
  | keeping h => exact .keeping (h.idle_passed hpassed)
  | refused h => exact .refused (h.passed hpassed).1
  | failed h => exact .failed (h.dones_passed hpassed)
  | launched h hhandle => exact .launched (h.passed hpassed).1 (hpassed.handle.trans hhandle)

theorem Rest.congr (h : s.Rest) (hstate : t.state = s.state) (hhandle : t.handle = s.handle)
    (hstages : t.stages = s.stages) : t.Rest := by
  cases h with
  | free h => exact .free ⟨hstate.trans h.state, hhandle.trans h.handle, hstages.trans h.stages⟩
  | running h =>
    exact .running ⟨hstate.trans h.state, hhandle.trans h.handle, hstages.trans h.stages⟩
  | ended h => exact .ended ⟨hstate.trans h.state, hhandle.trans h.handle, hstages.trans h.stages⟩
  | stuck h => exact .stuck ⟨hstate.trans h.state, hhandle.trans h.handle, hstages.trans h.stages⟩

theorem Launching.step (h : s.Launching c) (hcall : s.calls[call]? = some c)
    (hlock : s.locked = c.works) (spawn : Spawn) :
    ∃ d, Steps s call d (s.callStep call spawn).1 ∧ (s.callStep call spawn).1.Launching d := by
  cases h with
  | starting h =>
    rw [callStep.eq_def, hcall]
    simp only [show s.locked = false from hlock]
    exact ⟨.checking, ⟨rfl, rfl⟩, .checking (h.congr rfl rfl rfl)⟩
  | checking h =>
    rw [callStep.eq_def, hcall]
    -- only a stopped daemon is started; then no watch is busy, and none can become so
    by_cases hstate : s.state = .stopped
    · obtain ⟨handle, n, hat⟩ := h.dones hstate
      simp only [hstate, if_true]
      exact ⟨.clearing, ⟨rfl, hlock⟩, .clearing ⟨hat.state, hat.handle, hat.stages⟩⟩
    · simp only [hstate, if_false]
      exact ⟨_, ⟨rfl, rfl⟩, .refused (h.congr rfl rfl rfl)⟩
  | @clearing handle n h =>
    rw [callStep.eq_def, hcall]
    cases handle with
    | none =>
      simp only [h.handle]
      exact ⟨.marking, ⟨rfl, hlock⟩, .marking ⟨h.state, h.handle, h.stages⟩⟩
    | some stale =>
      simp only [h.handle]
      exact ⟨.joining stale, ⟨rfl, hlock⟩, .joining ⟨h.state, rfl, h.stages⟩⟩
  | @joining stale n h =>
    rw [callStep.eq_def, hcall]
    cases hresult : s.result? stale with
    | none =>
      simp only [hresult]
      exact ⟨.joining stale, .refl hcall hlock, .joining h⟩
    | some status =>
      simp only [hresult]
      exact ⟨.marking, ⟨rfl, hlock⟩, .marking ⟨h.state, h.handle, h.stages⟩⟩
  | marking h =>
    rw [callStep.eq_def, hcall]
    exact ⟨.spawning, ⟨rfl, hlock⟩, .spawning ⟨rfl, h.handle, h.stages⟩⟩
  | @spawning n h =>
    rw [callStep.eq_def, hcall]
    cases spawn with
    | error fault => exact ⟨.failing fault, ⟨rfl, hlock⟩, .failing ⟨h.state, h.handle, h.stages⟩⟩
    | ok _ =>
      have hlength : s.children.length = n := by
        rw [← length_dones n, ← h.stages, stages, List.length_map]
      refine ⟨.announcing n, ⟨by rw [← hlength]; rfl, hlock⟩, .announcing ⟨h.state, h.handle, ?_⟩⟩
      rw [← h.stages]
      simp [stages, Watch.stage]
  | failing h =>
    rw [callStep.eq_def, hcall]
    exact ⟨_, ⟨rfl, rfl⟩, .failed ⟨rfl, h.handle, h.stages⟩⟩
  | announcing h =>
    rw [callStep.eq_def, hcall]
    exact ⟨_, ⟨rfl, hlock⟩, .keeping ⟨rfl, h.handle, h.stages⟩⟩
  | @keeping n h =>
    rw [callStep.eq_def, hcall]
    -- with the handle kept the watch may begin: only now can the process be reaped
    refine ⟨_, ⟨rfl, rfl⟩, .launched (.running (n := n) ⟨h.state, rfl, ?_⟩) rfl⟩
    have hidle : (s.leave call (.started (.ok ()))).stages = dones n ++ [.idle] := h.stages
    refine (stages_change (fun _ => .busy) fun c _ => rfl).trans ?_
    rw [hidle, ← List.set_eq_modify, List.set_append]
    simp
  | refused h =>
    rw [callStep.eq_def, hcall]
    exact ⟨_, .refl hcall hlock, .refused h⟩
  | failed h =>
    rw [callStep.eq_def, hcall]
    exact ⟨_, .refl hcall hlock, .failed h⟩
  | launched h hhandle =>
    rw [callStep.eq_def, hcall]
    exact ⟨_, .refl hcall hlock, .launched h hhandle⟩

/-! ### Stopping -/

/-- The state after a call has stopped the daemon, which stays if the call was overtaken. -/
def lastWord (overtaken : Bool) : State :=
  if overtaken then .stopping else .stopped

/-- What is so at each step of a call that stops the daemon, and whether it is or will be stuck. -/
inductive Halting (s : Supervisor) : Bool → Call → Prop
  | stopping {stuck : Bool} (h : s.Rest) (hstuck : stuck = true ↔ s.state = .stopping) :
    Halting s stuck .stopping
  | taking {stuck : Bool} (h : s.Rest) (hstuck : stuck = true ↔ s.state = .stopping) :
    Halting s stuck .taking
  | nothing {stuck : Bool} {n : Nat} (h : s.At (lastWord stuck) none (dones n)) :
    Halting s stuck (.stopped none)
  | looking {n : Nat} (h : s.At .running none (dones n ++ [.busy])) : Halting s false (.looking n)
  | late {n : Nat} (h : s.At .stopped none (dones (n + 1))) : Halting s false (.looking n)
  | noting {n : Nat} (h : s.At .running none (dones n ++ [.busy])) : Halting s false (.noting n)
  /-- the daemon has ended since the state was looked at -/
  | overtaken {n : Nat} (h : s.At .stopped none (dones (n + 1))) : Halting s true (.noting n)
  | telling {n : Nat} (h : s.At .stopping none (dones n ++ [.busy])) : Halting s false (.telling n)
  | told {stuck : Bool} {n : Nat} (h : s.At (lastWord stuck) none (dones (n + 1))) :
    Halting s stuck (.telling n)
  | awaiting {n : Nat} (h : s.At .stopping none (dones n ++ [.busy])) :
    Halting s false (.awaiting n)
  | awaited {stuck : Bool} {n : Nat} (h : s.At (lastWord stuck) none (dones (n + 1))) :
    Halting s stuck (.awaiting n)
  | stopped {stuck : Bool} {n : Nat} {status : ExitStatus}
    (h : s.At (lastWord stuck) none (dones (n + 1))) (hresult : s.result? n = some status) :
    Halting s stuck (.stopped (some status))

theorem Halting.stuck_iff (h : s.Halting stuck (.noting child)) :
    stuck = true ↔ s.state = .stopped := by
  cases h with
  | noting h => simp [h.state]
  | overtaken h => simp [h.state]

/-- A step aside from the call may overtake it; then the call has looked at the state and has not
yet written it. -/
theorem Halting.passed (h : s.Halting stuck c) (hpassed : Passed s t) :
    t.Halting stuck c ∨ t.Halting true c ∧ ∃ child, c = .noting child := by
  cases h with
  | stopping h hstuck =>
    obtain ⟨ht, hiff⟩ := h.passed hpassed
    exact .inl (.stopping ht (hstuck.trans hiff.symm))
  | taking h hstuck =>
    obtain ⟨ht, hiff⟩ := h.passed hpassed
    exact .inl (.taking ht (hstuck.trans hiff.symm))
  | nothing h => exact .inl (.nothing (h.dones_passed hpassed))
  | looking h =>
    obtain ht | ht := h.busy_passed hpassed
    · exact .inl (.looking ht)
    · exact .inl (.late ht)
  | late h => exact .inl (.late (h.dones_passed hpassed))
  | @noting n h =>
    obtain ht | ht := h.busy_passed hpassed
    · exact .inl (.noting ht)
    · exact .inr ⟨.overtaken ht, n, rfl⟩
  | overtaken h => exact .inl (.overtaken (h.dones_passed hpassed))
  | telling h =>
    obtain ht | ht := h.busy_passed hpassed
    · exact .inl (.telling ht)
    · exact .inl (.told ht)
  | told h => exact .inl (.told (h.dones_passed hpassed))
  | awaiting h =>
    obtain ht | ht := h.busy_passed hpassed
    · exact .inl (.awaiting ht)
    · exact .inl (.awaited ht)
  | awaited h => exact .inl (.awaited (h.dones_passed hpassed))
  | stopped h hresult => exact .inl (.stopped (h.dones_passed hpassed) (hpassed.result? hresult))

/-- Each step of a call that stops the daemon leads to the next one. Whether the call is stuck is
not decided by its own steps. -/
theorem Halting.step (h : s.Halting stuck c) (hcall : s.calls[call]? = some c)
    (hlock : s.locked = c.works) (spawn : Spawn) :
    ∃ d, Steps s call d (s.callStep call spawn).1 ∧
      (s.callStep call spawn).1.Halting stuck d := by
  have htell : ∀ child, ((s.put call (.awaiting child)).change child
      ({ · with told := true })).stages = s.stages := fun child =>
    stages_change_same fun c _ => rfl
  cases h with
  | stopping h hstuck =>
    rw [callStep.eq_def, hcall]
    simp only [show s.locked = false from hlock]
    exact ⟨.taking, ⟨rfl, rfl⟩, .taking (h.congr rfl rfl rfl) hstuck⟩
  | taking h hstuck =>
    rw [callStep.eq_def, hcall]
    cases h with
    | @free n h =>
      obtain rfl : stuck = false := by simpa [h.state] using hstuck
      simp only [h.handle]
      exact ⟨_, ⟨rfl, rfl⟩, .nothing (n := n) ⟨h.state, h.handle, h.stages⟩⟩
    | @running n h =>
      obtain rfl : stuck = false := by simpa [h.state] using hstuck
      simp only [h.handle]
      exact ⟨_, ⟨rfl, hlock⟩, .looking ⟨h.state, rfl, h.stages⟩⟩
    | @ended n h =>
      obtain rfl : stuck = false := by simpa [h.state] using hstuck
      simp only [h.handle]
      exact ⟨_, ⟨rfl, hlock⟩, .late ⟨h.state, rfl, h.stages⟩⟩
    | @stuck n h =>
      obtain rfl : stuck = true := by simpa [h.state] using hstuck
      simp only [h.handle]
      exact ⟨_, ⟨rfl, rfl⟩, .nothing (n := n) ⟨h.state, h.handle, h.stages⟩⟩
  | @nothing stuck n h =>
    rw [callStep.eq_def, hcall]
    exact ⟨_, .refl hcall hlock, .nothing h⟩
  | @looking n h =>
    rw [callStep.eq_def, hcall]
    simp only [h.state, if_true]
    exact ⟨.noting n, ⟨rfl, hlock⟩, .noting ⟨h.state, h.handle, h.stages⟩⟩
  | @late n h =>
    rw [callStep.eq_def, hcall]
    simp only [h.state, reduceCtorEq, if_false]
    exact ⟨.telling n, ⟨rfl, hlock⟩, .told ⟨h.state, h.handle, h.stages⟩⟩
  | noting h =>
    rw [callStep.eq_def, hcall]
    exact ⟨_, ⟨rfl, hlock⟩, .telling ⟨rfl, h.handle, h.stages⟩⟩
  | overtaken h =>
    -- here the last word on the daemon is overwritten
    rw [callStep.eq_def, hcall]
    exact ⟨_, ⟨rfl, hlock⟩, .told ⟨rfl, h.handle, h.stages⟩⟩
  | @telling n h =>
    rw [callStep.eq_def, hcall]
    exact ⟨_, ⟨rfl, hlock⟩, .awaiting ⟨h.state, h.handle, (htell n).trans h.stages⟩⟩
  | @told stuck n h =>
    rw [callStep.eq_def, hcall]
    exact ⟨_, ⟨rfl, hlock⟩, .awaited ⟨h.state, h.handle, (htell n).trans h.stages⟩⟩
  | @awaiting n h =>
    rw [callStep.eq_def, hcall]
    cases hresult : s.result? n with
    | none =>
      simp only [hresult]
      exact ⟨_, .refl hcall hlock, .awaiting h⟩
    | some status =>
      -- a watch that is busy has no result yet
      have hdone := stages_of_result? hresult
      rw [h.stages, List.getElem?_append] at hdone
      simp at hdone
  | @awaited stuck n h =>
    rw [callStep.eq_def, hcall]
    have hdone : s.stages[n]? = some .done := by
      rw [h.stages]
      simp [Supervisor.dones]
    obtain ⟨status, hresult⟩ := result?_of_stages hdone
    simp only [hresult]
    exact ⟨_, ⟨rfl, rfl⟩, .stopped ⟨h.state, h.handle, h.stages⟩ hresult⟩
  | @stopped stuck n status h hresult =>
    rw [callStep.eq_def, hcall]
    exact ⟨_, .refl hcall hlock, .stopped h hresult⟩

end Supervisor

end QueryConsole
