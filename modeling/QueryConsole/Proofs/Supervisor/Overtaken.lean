import QueryConsole.Proofs.Supervisor.Interleaving

/-!
# Stopping a daemon that ends

A call to stop the daemon looks whether it is running, and then writes that it is being stopped. If
the daemon ends in between, the watch has already written that it is stopped, and writes nothing
more: what the call has written stays. In every other order of the steps the daemon is stopped when
the call is over.

## Main definitions

- `Supervisor.Overtaken`: the daemon ends between the look at the state and the write
- `Supervisor.Barred`: the daemon is said to be being stopped, and nothing starts it any more
- `Supervisor.StopsOrSticks`: how a call to stop the daemon leaves it

## Main results

- `stopped_unless_overtaken`: the daemon is stopped after the call, or the call is overtaken and
  the daemon is barred for ever
-/

namespace QueryConsole

namespace Supervisor

variable {s t : Supervisor} {call first : Nat} {d : Call} {beats : List Beat}

/-! ## The call -/

/-- The daemon ends when the call has looked at the state and has not yet written it. -/
def Overtaken (s : Supervisor) (beats : List Beat) : Prop :=
  ∃ before later child, beats = before ++ later ∧ s.outcome .stop before = some (.noting child) ∧
    (s.attend .stop before).state = .stopped

theorem overtaken_concat (s : Supervisor) (beats : List Beat) (b : Beat) :
    s.Overtaken (beats ++ [b]) ↔ s.Overtaken beats ∨
      ∃ child, s.outcome .stop (beats ++ [b]) = some (.noting child) ∧
        (s.attend .stop (beats ++ [b])).state = .stopped := by
  constructor
  · rintro ⟨before, later, child, he, hcall, hstate⟩
    obtain rfl | ⟨later, last, rfl⟩ := List.eq_nil_or_concat later
    · rw [List.append_nil] at he
      subst he
      exact .inr ⟨child, hcall, hstate⟩
    · rw [List.concat_eq_append, ← List.append_assoc] at he
      exact .inl ⟨before, later, child, (List.append_inj' he rfl).1, hcall, hstate⟩
  · rintro (⟨before, later, child, rfl, hcall, hstate⟩ | ⟨child, hcall, hstate⟩)
    · exact ⟨before, later ++ [b], child, List.append_assoc .., hcall, hstate⟩
    · exact ⟨beats ++ [b], [], child, (List.append_nil _).symm, hcall, hstate⟩

/-- A call that has just come in has not looked at the state. -/
theorem not_overtaken_nil (s : Supervisor) : ¬ s.Overtaken [] := by
  rintro ⟨before, later, child, he, hcall, -⟩
  obtain ⟨rfl, rfl⟩ := List.append_eq_nil_iff.1 he.symm
  simp [outcome, attend, runSteps, step] at hcall

/-- While a call to stop the daemon is attended to, things are as it expects, and it is stuck
exactly if it is overtaken or an earlier call was. -/
theorem attended_stop (hlock : s.locked = false) (hrest : s.Rest) (beats : List Beat) :
    ∃ c, Attended s c (s.attend .stop beats) ∧
      ∃ stuck, (s.attend .stop beats).Halting stuck c ∧
        (stuck = true ↔ s.state = .stopping ∨ s.Overtaken beats) := by
  -- it is enough to know where the call stands now, and that it gets stuck in no other way
  have hnow : ∀ {beats b stuck d now}, (stuck = true ↔ s.state = .stopping ∨ s.Overtaken beats) →
      Attended s d (s.attend .stop (beats ++ [b])) →
      (s.attend .stop (beats ++ [b])).Halting now d →
      (now = true → stuck = true ∨ ∃ child, d = .noting child) → (stuck = true → now = true) →
      ∃ stuck, (s.attend .stop (beats ++ [b])).Halting stuck d ∧
        (stuck = true ↔ s.state = .stopping ∨ s.Overtaken (beats ++ [b])) := by
    intro beats b stuck d now hiff hd hnow hgets hstays
    refine ⟨now, hnow, ?_⟩
    rw [overtaken_concat, ← or_assoc, ← hiff, outcome, hd.getElem?]
    constructor
    · intro htrue
      obtain hstuck | ⟨child, rfl⟩ := hgets htrue
      · exact .inl hstuck
      · exact .inr ⟨child, rfl, hnow.stuck_iff.1 htrue⟩
    · rintro (hstuck | ⟨child, he, hstate⟩)
      · exact hstays hstuck
      · cases he
        exact hnow.stuck_iff.2 hstate
  refine attend_induction .stop .stopping
    (P := fun beats c => ∃ stuck, (s.attend .stop beats).Halting stuck c ∧
      (stuck = true ↔ s.state = .stopping ∨ s.Overtaken beats)) ⟨⟨rfl, hlock⟩, ?_⟩ ?_ ?_ beats
  · refine ⟨decide (s.state = .stopping),
      .stopping (hrest.congr rfl rfl rfl) decide_eq_true_iff, ?_⟩
    rw [decide_eq_true_iff]
    exact ⟨.inl, fun h => h.resolve_right (not_overtaken_nil s)⟩
  · rintro beats c spawn hattended ⟨stuck, hhalting, hiff⟩
    obtain ⟨d, hsteps, h⟩ := hhalting.step hattended.getElem? hattended.locked spawn
    refine ⟨d, hsteps, hnow hiff ?_ ?_ .inl id⟩
    · rw [attend_concat]
      exact hattended.steps hsteps
    · rw [attend_concat]
      exact h
  · rintro beats c a hattended ⟨stuck, hhalting, hiff⟩
    have hd : Attended s c (s.attend .stop (beats ++ [.aside a])) := by
      rw [attend_concat]
      exact hattended.aside a
    have hpassed : Passed (s.attend .stop beats) (s.attend .stop (beats ++ [.aside a])) := by
      rw [attend_concat]
      exact passed _ a
    obtain h | ⟨h, child, rfl⟩ := hhalting.passed hpassed
    · exact hnow hiff hd h .inl id
    · exact hnow hiff hd h (fun _ => .inr ⟨child, rfl⟩) fun _ => rfl

/-! ## The next start -/

theorem callStep_starting (hcall : s.calls[call]? = some .starting) (hlock : s.locked = false)
    (spawn : Spawn) : (s.callStep call spawn).1.calls = s.calls.set call .checking := by
  rw [callStep.eq_def, hcall]
  simp [hlock, put]

theorem callStep_checking (hcall : s.calls[call]? = some .checking) (hstate : s.state = .stopped)
    (spawn : Spawn) : (s.callStep call spawn).1.calls = s.calls.set call .clearing := by
  rw [callStep.eq_def, hcall]
  simp [hstate, put]

/-- A start that comes in while the daemon is stopped and all calls are over is not refused. -/
theorem attended_start (hlock : s.locked = false) (hrest : s.Rest) (hstate : s.state = .stopped)
    (beats : List Beat) :
    ∃ c, Attended s c (s.attend .start beats) ∧ (s.attend .start beats).Launching c ∧
      (c.isEarly = false ∨
        (c = .starting ∨ c = .checking) ∧ (s.attend .start beats).state = .stopped) := by
  refine attend_induction .start .starting
    (P := fun beats c => (s.attend .start beats).Launching c ∧
      (c.isEarly = false ∨ (c = .starting ∨ c = .checking) ∧
        (s.attend .start beats).state = .stopped))
    ⟨⟨rfl, hlock⟩, .starting (hrest.congr rfl rfl rfl), .inr ⟨.inl rfl, hstate⟩⟩ ?_ ?_ beats
  · rintro beats c spawn hattended ⟨hlaunching, hearly⟩
    have hcall := hattended.getElem?
    have hlt := (List.getElem?_eq_some_iff.1 hcall).1
    obtain ⟨d, hsteps, h⟩ := hlaunching.step hcall hattended.locked spawn
    have hd := (hattended.steps hsteps).getElem?
    rw [attend_concat]
    refine ⟨d, hsteps, h, ?_⟩
    obtain hearly | ⟨rfl | rfl, hstate⟩ := hearly
    · exact .inl ((next_callStep hcall hd).isEarly hearly)
    · rw [callStep_starting hcall hattended.locked, List.getElem?_set_self hlt] at hd
      cases hd
      exact .inr ⟨.inr rfl, (callStep_of_isEarly hcall rfl spawn).1.trans hstate⟩
    · rw [callStep_checking hcall hstate, List.getElem?_set_self hlt] at hd
      cases hd
      exact .inl rfl
  · rintro beats c a hattended ⟨hlaunching, hearly⟩
    have hpassed := passed (s.attend .start beats) a
    rw [attend_concat]
    refine ⟨hlaunching.passed hpassed, ?_⟩
    obtain hearly | ⟨hc, hstate⟩ := hearly
    · exact .inl hearly
    · -- the daemon stays stopped
      have hrest : (s.attend .start beats).Rest := by
        obtain rfl | rfl := hc <;> cases hlaunching <;> assumption
      obtain ⟨handle, n, hat⟩ := hrest.dones hstate
      exact .inr ⟨hc, (hat.dones_passed hpassed).state⟩

/-! ## No more starts -/

/-- A call that has not got beyond looking at the state or the handle, and never will. -/
inductive Call.IsFutile : Call → Prop
  | starting : IsFutile .starting
  | checking : IsFutile .checking
  | refused : IsFutile (.started (.error (.active .stopping)))
  | stopping : IsFutile .stopping
  | taking : IsFutile .taking
  | nothing : IsFutile (.stopped none)

/-- The daemon is said to be being stopped although there is none, and all calls are over or
futile. -/
structure Stuck (s : Supervisor) (first : Nat) : Prop where
  daemon : ∃ n, s.At .stopping none (dones n)
  calls : ∀ call c, s.calls[call]? = some c → c.isOver = true ∧ call < first ∨ c.IsFutile

/-- The daemon is said to be being stopped, and calls from a certain one on achieve nothing. -/
structure Barred (s : Supervisor) (first : Nat) : Prop where
  state : s.state = .stopping
  starts : ∀ call result, first ≤ call → s.calls[call]? = some (.started result) →
    result = .error (.active .stopping)
  stops : ∀ call result, first ≤ call → s.calls[call]? = some (.stopped result) → result = none

namespace Stuck

theorem barred (h : s.Stuck first) : s.Barred first where
  state := by
    obtain ⟨n, hat⟩ := h.daemon
    exact hat.state
  starts call result hfirst hcall := by
    obtain ⟨-, hlt⟩ | hfutile := h.calls call _ hcall
    · omega
    · cases hfutile
      rfl
  stops call result hfirst hcall := by
    obtain ⟨-, hlt⟩ | hfutile := h.calls call _ hcall
    · omega
    · cases hfutile
      rfl

theorem set (h : s.Stuck first) (hd : d.IsFutile) (hcalls : t.calls = s.calls.set call d)
    (hstate : t.state = s.state) (hhandle : t.handle = s.handle) (hstages : t.stages = s.stages) :
    t.Stuck first where
  daemon := by
    obtain ⟨n, hat⟩ := h.daemon
    exact ⟨n, hstate.trans hat.state, hhandle.trans hat.handle, hstages.trans hat.stages⟩
  calls j c hc := by
    rw [hcalls, List.getElem?_set] at hc
    split at hc
    · split at hc
      · cases hc
        exact .inr hd
      · cases hc
    · exact h.calls j c hc

theorem append (h : s.Stuck first) (hd : d.IsFutile) :
    Stuck { s with calls := s.calls ++ [d] } first where
  daemon := by
    obtain ⟨n, hat⟩ := h.daemon
    exact ⟨n, hat.state, hat.handle, hat.stages⟩
  calls j c hc := by
    rw [List.getElem?_append] at hc
    split at hc
    · exact h.calls j c hc
    · rw [List.mem_singleton.1 (List.mem_of_getElem? hc)]
      exact .inr hd

theorem callStep (h : s.Stuck first) (call : Nat) (spawn : Spawn) :
    (s.callStep call spawn).1.Stuck first := by
  cases hcall : s.calls[call]? with
  | none =>
    rw [callStep_of_none hcall]
    exact h
  | some c =>
    obtain ⟨n, hat⟩ := h.daemon
    obtain ⟨hover, -⟩ | hfutile := h.calls call c hcall
    · rw [callStep_of_blocked hcall (Call.works_of_isOver hover) (.inl hover)]
      exact h
    · rw [callStep.eq_def, hcall]
      cases hfutile with
      | starting =>
        dsimp only
        split
        · exact h
        · exact h.set .checking rfl rfl rfl rfl
      | checking =>
        simp only [hat.state, reduceCtorEq, if_false]
        exact h.set .refused rfl rfl rfl rfl
      | refused => exact h
      | stopping =>
        dsimp only
        split
        · exact h
        · exact h.set .taking rfl rfl rfl rfl
      | taking =>
        simp only [hat.handle]
        exact h.set .nothing rfl rfl rfl rfl
      | nothing => exact h

theorem aside (h : s.Stuck first) (a : Aside) : (s.step a.move).1.Stuck first where
  daemon := by
    obtain ⟨n, hat⟩ := h.daemon
    exact ⟨n, hat.dones_passed (passed s a)⟩
  calls := by
    rw [(calls_aside s a).1]
    exact h.calls

theorem step (h : s.Stuck first) (m : Move) : (s.step m).1.Stuck first :=
  step_cases (P := (Stuck · first)) (h.append .starting) (h.append .stopping) h.callStep h.aside m

theorem runSteps (h : s.Stuck first) (later : List Move) : (s.runSteps later).1.Stuck first := by
  induction later generalizing s with
  | nil => exact h
  | cons m later ih => exact ih (h.step m)

end Stuck

/-! ## All orders -/

/-- How a call to stop the daemon leaves it, when the call is over. -/
structure StopsOrSticks (s : Supervisor) (beats : List Beat) : Prop where
  /-- the daemon is stopped, unless the call is overtaken or an earlier one was -/
  stopped : (s.attend .stop beats).state = .stopped ↔ s.state ≠ .stopping ∧ ¬ s.Overtaken beats
  /-- if it is stopped, the next start is not refused -/
  admits : (s.attend .stop beats).state = .stopped → ∀ later state,
    (s.attend .stop beats).outcome .start later ≠ some (.started (.error (.active state)))
  /-- if it is not, nothing stops or starts it any more -/
  bars : (s.attend .stop beats).state ≠ .stopped → ∀ later,
    ((s.attend .stop beats).runSteps later).1.Barred (s.calls.length + 1)

theorem stopsOrSticks (hquiet : s.Quiet) (hkept : s.Kept) {result : Option ExitStatus}
    (hover : s.outcome .stop beats = some (.stopped result)) : s.StopsOrSticks beats := by
  obtain ⟨hlock, hrest⟩ := hquiet.rest hkept
  obtain ⟨c, hattended, stuck, hhalting, hiff⟩ := attended_stop hlock hrest beats
  rw [outcome, hattended.getElem?] at hover
  cases hover
  obtain ⟨n, hat⟩ : ∃ n, (s.attend .stop beats).At (lastWord stuck) none (dones n) := by
    cases hhalting with
    | nothing h => exact ⟨_, h⟩
    | stopped h => exact ⟨_, h⟩
  have hstate : (s.attend .stop beats).state = .stopped ↔ stuck = false := by
    rw [hat.state]
    cases stuck <;> simp [lastWord]
  refine ⟨?_, fun hstopped later state hrefused => ?_, fun hnot later => Stuck.barred ?_⟩
  · rw [hstate, ← not_or, ← hiff, Bool.not_eq_true]
  · obtain rfl := hstate.1 hstopped
    obtain ⟨c, hc, -, hearly⟩ := attended_start hattended.locked (.free hat) hstopped later
    rw [outcome, hc.getElem?] at hrefused
    cases hrefused
    obtain hearly | ⟨hearly | hearly, -⟩ := hearly <;> cases hearly
  · obtain rfl : stuck = true := by simpa using mt hstate.2 hnot
    refine Stuck.runSteps ⟨⟨n, hat⟩, fun call c hcall => .inl ?_⟩ later
    rw [hattended.calls, List.getElem?_append] at hcall
    split at hcall
    · exact ⟨hquiet c (List.mem_of_getElem? hcall), by omega⟩
    · have hlt : call - s.calls.length < 1 := (List.getElem?_eq_some_iff.1 hcall).1
      rw [List.mem_singleton.1 (List.mem_of_getElem? hcall)]
      exact ⟨rfl, by omega⟩

end Supervisor

open Supervisor

/-- Whatever calls have come in and have ended, in whatever order all steps were taken: when one
more call to stop the daemon is over, the daemon is stopped and the next start is not refused,
unless the daemon has ended between the call's look at the state and its write, or an earlier call
was overtaken like that. Then the daemon is said to be being stopped for ever: every later start is
refused and every later stop finds nothing. -/
theorem stopped_unless_overtaken (moves : List Move) (beats : List Beat)
    (result : Option ExitStatus) (hquiet : (reached moves).Quiet)
    (hover : (reached moves).outcome .stop beats = some (.stopped result)) :
    (reached moves).StopsOrSticks beats :=
  stopsOrSticks hquiet (kept_reached moves) hover

/-- A daemon that is started and, when it is asked to, ends. -/
theorem stopped_unless_overtaken_when_asked :
    StopsOrSticks (reached (.start :: List.replicate 7 (.call 0 (.ok ()))))
      [.own (.ok ()), .own (.ok ()), .own (.ok ()), .own (.ok ()), .own (.ok ()),
        .aside (.watch 0 true), .aside (.exit 0 (.signal terminate)), .aside (.watch 0 false),
        .aside (.watch 0 false), .own (.ok ())] :=
  stopped_unless_overtaken _ _ (some (.signal terminate)) (by decide) rfl

/-- A daemon that is started and ends by itself, just when a call to stop it has found that it is
running: the call returns how it ended, and the daemon is said to be being stopped. The next start
is refused. -/
theorem stop_overtaken :
    let s := reached (.start :: List.replicate 7 (.call 0 (.ok ())))
    let t := s.attend .stop [.own (.ok ()), .own (.ok ()), .own (.ok ()),
      .aside (.exit 0 (.code 0)), .aside (.watch 0 false), .aside (.watch 0 false),
      .own (.ok ()), .own (.ok ()), .own (.ok ())]
    s.state = .running ∧ t.calls[1]? = some (.stopped (some (.code 0))) ∧ t.state = .stopping ∧
      t.outcome .start [.own (.ok ()), .own (.ok ())] =
        some (.started (.error (.active .stopping))) :=
  ⟨rfl, rfl, rfl, rfl⟩

end QueryConsole
