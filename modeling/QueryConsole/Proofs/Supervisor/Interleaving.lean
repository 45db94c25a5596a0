import Mathlib.Data.List.Induction
import QueryConsole.Proofs.Supervisor.Stages
import QueryConsole.Supervisor.Run

/-!
# Any order of steps

At every moment of every run, whatever calls come in and in whatever order the steps are taken,
either no call holds the lock and the daemon is as calls leave it, or one call does and the daemon
is as that call expects. When all calls are over, one more call can be attended to, while the
processes and the watches go on.

## Main definitions

- `Supervisor.Kept`: what is so between any two steps of any calls
- `Supervisor.reached`: where single steps lead from the beginning
- `Supervisor.Quiet`: all calls are over
- `Supervisor.idle`: what goes on while there is no call
- `Supervisor.attend`: one more call, and what goes on beside it

## Main results

- `Supervisor.kept_reached`: at every moment of every run things are as the calls expect
- `Supervisor.Quiet.rest`: how the daemon is when all calls are over
- `Supervisor.reached_induction`, `Supervisor.attend_induction`: what steps keep is so in every run
-/

namespace QueryConsole

namespace Supervisor

variable {s t : Supervisor} {call : Nat} {c d : Call} {spawn : Spawn}

/-! ## Calls that leave the daemon alone -/

theorem Call.works_of_isOver (h : c.isOver = true) : c.works = false := by
  cases c with
  | started result => rfl
  | stopped result => rfl
  | _ => cases h

/-- A call that is over, or that waits for the lock while another one holds it, stays where it
is. -/
theorem callStep_of_blocked (hcall : s.calls[call]? = some c) (hc : c.works = false)
    (hblocked : c.isOver = true ∨ s.locked = true) (spawn : Spawn) :
    (s.callStep call spawn).1 = s := by
  rw [callStep.eq_def, hcall]
  cases c <;> simp_all [Call.works, Call.isOver]

theorem callStep_of_none (hcall : s.calls[call]? = none) (spawn : Spawn) :
    (s.callStep call spawn).1 = s := by
  rw [callStep.eq_def, hcall]

/-- Whether a call to start the daemon has not got beyond looking at the state. -/
def Call.isEarly : Call → Bool
  | .starting | .checking | .started (.error (.active _)) => true
  | _ => false

/-- A call that has not got beyond looking at the state has changed nothing but the lock. -/
theorem callStep_of_isEarly (hcall : s.calls[call]? = some c) (hc : c.isEarly = true)
    (spawn : Spawn) : (s.callStep call spawn).1.state = s.state ∧
      (s.callStep call spawn).1.handle = s.handle ∧
      (s.callStep call spawn).1.children = s.children := by
  rw [callStep.eq_def, hcall]
  cases c with
  | starting =>
    dsimp only
    split <;> exact ⟨rfl, rfl, rfl⟩
  | checking =>
    dsimp only
    split <;> exact ⟨rfl, rfl, rfl⟩
  | started result => exact ⟨rfl, rfl, rfl⟩
  | _ => cases hc

/-- What may become of a call in one step of its own. Nothing leads back. -/
inductive Call.Next : Call → Call → Prop
  | stays {c : Call} : Next c c
  | checks : Next .starting .checking
  | refused {state : State} : Next .checking (.started (.error (.active state)))
  | clears : Next .checking .clearing
  | joins {stale : Nat} : Next .clearing (.joining stale)
  | marks : Next .clearing .marking
  | joined {stale : Nat} : Next (.joining stale) .marking
  | spawns : Next .marking .spawning
  | fails {fault : SpawnFault} : Next .spawning (.failing fault)
  | failed {fault : SpawnFault} : Next (.failing fault) (.started (.error (.spawn fault)))
  | announces {child : Nat} : Next .spawning (.announcing child)
  | keeps {child : Nat} : Next (.announcing child) (.keeping child)
  | started {child : Nat} : Next (.keeping child) (.started (.ok ()))
  | takes : Next .stopping .taking
  | nothing : Next .taking (.stopped none)
  | looks {child : Nat} : Next .taking (.looking child)
  | notes {child : Nat} : Next (.looking child) (.noting child)
  | skips {child : Nat} : Next (.looking child) (.telling child)
  | tells {child : Nat} : Next (.noting child) (.telling child)
  | awaits {child : Nat} : Next (.telling child) (.awaiting child)
  | stopped {child : Nat} {status : ExitStatus} :
    Next (.awaiting child) (.stopped (some status))

theorem next_callStep (hcall : s.calls[call]? = some c)
    (hd : (s.callStep call spawn).1.calls[call]? = some d) : c.Next d := by
  have hput : ∀ e, (s.calls.set call e)[call]? = some d → d = e := by
    intro e he
    rw [List.getElem?_set_self (List.getElem?_eq_some_iff.1 hcall).1] at he
    cases he
    rfl
  have hstays : s.calls[call]? = some d → c.Next d := by
    intro he
    cases hcall.symm.trans he
    exact .stays
  rw [callStep.eq_def, hcall] at hd
  cases c with
  | starting =>
    dsimp only at hd
    split at hd
    · exact hstays hd
    · exact hput _ hd ▸ .checks
  | checking =>
    dsimp only at hd
    split at hd
    · exact hput _ hd ▸ .clears
    · exact hput _ hd ▸ .refused
  | clearing =>
    dsimp only at hd
    split at hd
    · exact hput _ hd ▸ .joins
    · exact hput _ hd ▸ .marks
  | joining stale =>
    dsimp only at hd
    split at hd
    · exact hput _ hd ▸ .joined
    · exact hstays hd
  | marking => exact hput _ hd ▸ .spawns
  | spawning =>
    cases spawn with
    | error fault => exact hput _ hd ▸ .fails
    | ok _ => exact hput _ hd ▸ .announces
  | failing fault => exact hput _ hd ▸ .failed
  | announcing child => exact hput _ hd ▸ .keeps
  | keeping child => exact hput _ hd ▸ .started
  | started result => exact hstays hd
  | stopping =>
    dsimp only at hd
    split at hd
    · exact hstays hd
    · exact hput _ hd ▸ .takes
  | taking =>
    dsimp only at hd
    split at hd
    · exact hput _ hd ▸ .nothing
    · exact hput _ hd ▸ .looks
  | looking child =>
    have he := hput _ hd
    split at he
    · exact he ▸ .notes
    · exact he ▸ .skips
  | noting child => exact hput _ hd ▸ .tells
  | telling child => exact hput _ hd ▸ .awaits
  | awaiting child =>
    dsimp only at hd
    split at hd
    · exact hput _ hd ▸ .stopped
    · exact hstays hd
  | stopped result => exact hstays hd

theorem Call.Next.isEarly (h : c.Next d) (hc : c.isEarly = false) : d.isEarly = false := by
  cases h with
  | stays => exact hc
  | checks => cases hc
  | refused => cases hc
  | _ => rfl

theorem Call.Next.isOver (h : c.Next d) (hc : c.works = true) (hd : d.works = false) :
    d.isOver = true := by
  cases h with
  | stays =>
    rw [hc] at hd
    cases hd
  | _ => first | rfl | cases hd

/-! ## Between any two steps -/

def Fits (s : Supervisor) (c : Call) : Prop :=
  s.Launching c ∨ ∃ stuck, s.Halting stuck c

theorem Fits.passed (h : s.Fits c) (hpassed : Passed s t) : t.Fits c := by
  obtain h | ⟨stuck, h⟩ := h
  · exact .inl (h.passed hpassed)
  · obtain h | ⟨h, -⟩ := h.passed hpassed
    · exact .inr ⟨_, h⟩
    · exact .inr ⟨_, h⟩

theorem Fits.step (h : s.Fits c) (hcall : s.calls[call]? = some c) (hlock : s.locked = c.works)
    (spawn : Spawn) :
    ∃ d, Steps s call d (s.callStep call spawn).1 ∧ (s.callStep call spawn).1.Fits d := by
  obtain h | ⟨stuck, h⟩ := h
  · obtain ⟨d, hsteps, h⟩ := h.step hcall hlock spawn
    exact ⟨d, hsteps, .inl h⟩
  · obtain ⟨d, hsteps, h⟩ := h.step hcall hlock spawn
    exact ⟨d, hsteps, .inr ⟨stuck, h⟩⟩

/-- What a call leaves behind that gives the lock back. -/
theorem Fits.rest (h : s.Fits c) (hc : c.works = false) : s.Rest := by
  have hlast : ∀ {stuck n}, s.At (lastWord stuck) none (dones n) → s.Rest := by
    intro stuck n h
    cases stuck with
    | false => exact .free h
    | true => exact .stuck h
  obtain h | ⟨stuck, h⟩ := h
  · cases h with
    | starting h => exact h
    | refused h => exact h
    | failed h => exact .free h
    | launched h => exact h
    | _ => cases hc
  · cases h with
    | stopping h => exact h
    | nothing h => exact hlast h
    | stopped h => exact hlast h
    | _ => cases hc

/-- What is so between any two steps of any calls. -/
inductive Kept (s : Supervisor) : Prop
  | free (hlock : s.locked = false) (hcalls : ∀ c ∈ s.calls, c.works = false) (h : s.Rest)
  | held {call : Nat} {c : Call} (hcall : s.calls[call]? = some c) (hworks : c.works = true)
    (hlock : s.locked = true)
    (hothers : ∀ j d, j ≠ call → s.calls[j]? = some d → d.works = false) (h : s.Fits c)

theorem Kept.of_steps (hlt : call < s.calls.length) (hsteps : Steps s call d t)
    (hothers : ∀ j c, j ≠ call → s.calls[j]? = some c → c.works = false) (h : t.Fits d) :
    t.Kept := by
  have hcall : t.calls[call]? = some d := by
    rw [hsteps.calls, List.getElem?_set_self hlt]
  have hothers' : ∀ j c, j ≠ call → t.calls[j]? = some c → c.works = false := by
    intro j c hj hc
    rw [hsteps.calls, List.getElem?_set_ne (Ne.symm hj)] at hc
    exact hothers j c hj hc
  -- the call has kept the lock, or has just given it back
  cases hworks : d.works with
  | true => exact .held hcall hworks (hsteps.locked.trans hworks) hothers' h
  | false =>
    refine .free (hsteps.locked.trans hworks) (fun c hc => ?_) (h.rest hworks)
    obtain ⟨j, hj⟩ := List.getElem?_of_mem hc
    by_cases hjcall : j = call
    · subst hjcall
      cases hcall.symm.trans hj
      exact hworks
    · exact hothers' j c hjcall hj

theorem Kept.passed (h : s.Kept) (hcalls : t.calls = s.calls) (hlocked : t.locked = s.locked)
    (hpassed : Passed s t) : t.Kept := by
  cases h with
  | free hlock hwaits h =>
    refine .free (hlocked.trans hlock) ?_ (h.passed hpassed).1
    rw [hcalls]
    exact hwaits
  | @held call c hcall hworks hlock hothers h =>
    have hcall' : t.calls[call]? = some c := by
      rw [hcalls]
      exact hcall
    refine .held hcall' hworks (hlocked.trans hlock) ?_ (h.passed hpassed)
    rw [hcalls]
    exact hothers

theorem Kept.append (h : s.Kept) (hc : c.works = false) :
    Kept { s with calls := s.calls ++ [c] } := by
  have hpassed : Passed s { s with calls := s.calls ++ [c] } :=
    ⟨rfl, List.forall₂_same.2 fun c _ => .refl c, .inl ⟨rfl, rfl⟩⟩
  cases h with
  | free hlock hwaits h =>
    refine .free hlock (fun d hd => ?_) (h.passed hpassed).1
    obtain hd | hd := List.mem_append.1 hd
    · exact hwaits d hd
    · rw [List.mem_singleton.1 hd]
      exact hc
  | @held call d hcall hworks hlock hothers h =>
    have hlt := (List.getElem?_eq_some_iff.1 hcall).1
    refine .held ((List.getElem?_append_left hlt).trans hcall) hworks hlock ?_ (h.passed hpassed)
    intro j e hj he
    rw [List.getElem?_append] at he
    by_cases hold : j < s.calls.length
    · rw [if_pos hold] at he
      exact hothers j e hj he
    · rw [if_neg hold] at he
      rw [List.mem_singleton.1 (List.mem_of_getElem? he)]
      exact hc

/-- A call that is not over waits for the lock while another one holds it, or things are as it
expects and no other call holds the lock. -/
theorem Kept.fits (h : s.Kept) (hcall : s.calls[call]? = some c) (hover : c.isOver = false) :
    c.works = false ∧ s.locked = true ∨
      s.Fits c ∧ s.locked = c.works ∧
        ∀ j d, j ≠ call → s.calls[j]? = some d → d.works = false := by
  cases h with
  | free hlock hcalls h =>
    have hc := hcalls c (List.mem_of_getElem? hcall)
    refine .inr ⟨?_, hlock.trans hc.symm, fun j d _ hd => hcalls d (List.mem_of_getElem? hd)⟩
    cases c with
    | starting => exact .inl (.starting h)
    | stopping => exact .inr ⟨decide (s.state = .stopping), .stopping h decide_eq_true_iff⟩
    | started result => cases hover
    | stopped result => cases hover
    | _ => cases hc
  | @held holder e hholder hworks hlock hothers h =>
    by_cases hj : call = holder
    · subst hj
      cases hcall.symm.trans hholder
      exact .inr ⟨h, hlock.trans hworks.symm, hothers⟩
    · exact .inl ⟨hothers call c hj hcall, hlock⟩

theorem Kept.callStep (h : s.Kept) (call : Nat) (spawn : Spawn) :
    (s.callStep call spawn).1.Kept := by
  cases hcall : s.calls[call]? with
  | none =>
    rw [callStep_of_none hcall]
    exact h
  | some c =>
    cases hover : c.isOver with
    | true =>
      rw [callStep_of_blocked hcall (Call.works_of_isOver hover) (.inl hover)]
      exact h
    | false =>
      obtain ⟨hworks, hlock⟩ | ⟨hfits, hlock, hothers⟩ := h.fits hcall hover
      · rw [callStep_of_blocked hcall hworks (.inr hlock)]
        exact h
      · obtain ⟨d, hsteps, hfits⟩ := hfits.step hcall hlock spawn
        exact .of_steps (List.getElem?_eq_some_iff.1 hcall).1 hsteps hothers hfits

theorem Kept.aside (h : s.Kept) (a : Aside) : (s.step a.move).1.Kept :=
  h.passed (calls_aside s a).1 (calls_aside s a).2 (Supervisor.passed s a)

/-- A step is a call that comes in, a step of a call, or a step that no call takes. -/
theorem step_cases {P : Supervisor → Prop} (hstart : P { s with calls := s.calls ++ [.starting] })
    (hstop : P { s with calls := s.calls ++ [.stopping] })
    (hcall : ∀ call spawn, P (s.callStep call spawn).1) (haside : ∀ a : Aside, P (s.step a.move).1)
    (m : Move) : P (s.step m).1 := by
  cases m with
  | start => exact hstart
  | stop => exact hstop
  | call call spawn => exact hcall call spawn
  | exit child status => exact haside (.exit child status)
  | watch child wordFirst => exact haside (.watch child wordFirst)
  | expire child => exact haside (.expire child)

/-- Every step keeps things as the calls expect them to be. -/
theorem Kept.step (h : s.Kept) (m : Move) : (s.step m).1.Kept :=
  step_cases (h.append rfl) (h.append rfl) h.callStep h.aside m

/-! ## Runs -/

theorem runSteps_append (s : Supervisor) (before later : List Move) :
    s.runSteps (before ++ later) = (((s.runSteps before).1.runSteps later).1,
      (s.runSteps before).2 ++ ((s.runSteps before).1.runSteps later).2) := by
  induction before generalizing s with
  | nil => simp [runSteps]
  | cons m before ih => simp [runSteps, ih, List.append_assoc]

theorem runSteps_concat (s : Supervisor) (moves : List Move) (m : Move) :
    (s.runSteps (moves ++ [m])).1 = ((s.runSteps moves).1.step m).1 := by
  rw [runSteps_append]
  rfl

def reached (moves : List Move) : Supervisor :=
  (runSteps {} moves).1

theorem reached_concat (moves : List Move) (m : Move) :
    reached (moves ++ [m]) = ((reached moves).step m).1 :=
  runSteps_concat ..

/-- What is so in the beginning and is kept by every step is so at every moment of every run. -/
theorem reached_induction {P : Supervisor → Prop} (hbegin : P {})
    (hstep : ∀ s m, P s → P (s.step m).1) (moves : List Move) : P (reached moves) := by
  induction moves using List.reverseRecOn with
  | nil => exact hbegin
  | append_singleton moves m ih =>
    rw [reached_concat]
    exact hstep _ m ih

theorem kept_reached (moves : List Move) : (reached moves).Kept := by
  refine reached_induction ?_ (fun s m h => h.step m) moves
  exact .free rfl (by simp) (.free (n := 0) ⟨rfl, rfl, rfl⟩)

def Quiet (s : Supervisor) : Prop :=
  ∀ c ∈ s.calls, c.isOver = true

instance : Decidable s.Quiet :=
  inferInstanceAs (Decidable (∀ c ∈ s.calls, c.isOver = true))

theorem Quiet.rest (h : s.Quiet) (hkept : s.Kept) : s.locked = false ∧ s.Rest := by
  cases hkept with
  | free hlock hcalls hrest => exact ⟨hlock, hrest⟩
  | held hcall hworks hlock hothers hfits =>
    rw [Call.works_of_isOver (h _ (List.mem_of_getElem? hcall))] at hworks
    cases hworks

/-! ## No call -/

/-- Steps are taken that no call takes. -/
def idle (s : Supervisor) (asides : List Aside) : Supervisor :=
  (s.runSteps (asides.map Aside.move)).1

theorem idle_concat (s : Supervisor) (asides : List Aside) (a : Aside) :
    s.idle (asides ++ [a]) = ((s.idle asides).step a.move).1 := by
  rw [idle, List.map_append, List.map_singleton, runSteps_concat]
  rfl

@[simp] theorem calls_idle (s : Supervisor) (asides : List Aside) :
    (s.idle asides).calls = s.calls := by
  induction asides using List.reverseRecOn with
  | nil => rfl
  | append_singleton asides a ih => rw [idle_concat, (calls_aside _ a).1, ih]

@[simp] theorem handle_idle (s : Supervisor) (asides : List Aside) :
    (s.idle asides).handle = s.handle := by
  induction asides using List.reverseRecOn with
  | nil => rfl
  | append_singleton asides a ih => rw [idle_concat, (passed _ a).handle, ih]

theorem Kept.idle (h : s.Kept) (asides : List Aside) : (s.idle asides).Kept := by
  induction asides using List.reverseRecOn with
  | nil => exact h
  | append_singleton asides a ih =>
    rw [idle_concat]
    exact ih.aside a

theorem Quiet.idle (h : s.Quiet) (asides : List Aside) : (s.idle asides).Quiet := by
  rw [Quiet, calls_idle]
  exact h

/-- While there is no call, nobody says that the daemon is stopping, and that word stays. -/
theorem Quiet.stopping_idle (hquiet : s.Quiet) (hkept : s.Kept) (asides : List Aside) :
    (s.idle asides).state = .stopping ↔ s.state = .stopping := by
  induction asides using List.reverseRecOn with
  | nil => exact Iff.rfl
  | append_singleton asides a ih =>
    have hrest := ((hquiet.idle asides).rest (hkept.idle asides)).2
    rw [idle_concat, (hrest.passed (passed _ a)).2, ih]

/-! ## One more call -/

/-- A step while a call is attended to: its own, or one aside from it. -/
inductive Beat
  | own (spawn : Spawn)
  | aside (a : Aside)
  deriving Repr

def Beat.move (call : Nat) : Beat → Move
  | .own spawn => .call call spawn
  | .aside a => a.move

/-- One more call comes in, and steps are taken that are its own or aside from it. -/
def attend (s : Supervisor) (wish : Move) (beats : List Beat) : Supervisor :=
  (s.runSteps (wish :: beats.map (Beat.move s.calls.length))).1

/-- Where the call then stands. -/
def outcome (s : Supervisor) (wish : Move) (beats : List Beat) : Option Call :=
  (s.attend wish beats).calls[s.calls.length]?

theorem attend_concat (s : Supervisor) (wish : Move) (beats : List Beat) (b : Beat) :
    s.attend wish (beats ++ [b]) = ((s.attend wish beats).step (b.move s.calls.length)).1 := by
  rw [attend, List.map_append, List.map_singleton, ← List.cons_append, runSteps_concat]
  rfl

/-- A call is attended to: it is the last one, and no other call holds the lock. -/
structure Attended (s : Supervisor) (c : Call) (t : Supervisor) : Prop where
  calls : t.calls = s.calls ++ [c]
  locked : t.locked = c.works

namespace Attended

variable {u : Supervisor}

theorem getElem? (h : Attended s c t) : t.calls[s.calls.length]? = some c := by
  rw [h.calls]
  simp

theorem aside (h : Attended s c t) (a : Aside) : Attended s c (t.step a.move).1 :=
  ⟨(calls_aside t a).1.trans h.calls, (calls_aside t a).2.trans h.locked⟩

theorem steps (h : Attended s c t) (hsteps : Steps t s.calls.length d u) : Attended s d u where
  calls := by
    rw [hsteps.calls, h.calls, List.set_append]
    simp
  locked := hsteps.locked

end Attended

/-- What is so when a call comes in and is kept by its own steps and by those aside from it is so
while it is attended to. -/
theorem attend_induction (wish : Move) (first : Call) {P : List Beat → Call → Prop}
    (hbegin : Attended s first (s.attend wish []) ∧ P [] first)
    (hown : ∀ beats c spawn, Attended s c (s.attend wish beats) → P beats c →
      ∃ d, Steps (s.attend wish beats) s.calls.length d
        ((s.attend wish beats).callStep s.calls.length spawn).1 ∧ P (beats ++ [.own spawn]) d)
    (haside : ∀ beats c a, Attended s c (s.attend wish beats) → P beats c →
      P (beats ++ [.aside a]) c) (beats : List Beat) :
    ∃ c, Attended s c (s.attend wish beats) ∧ P beats c := by
  induction beats using List.reverseRecOn with
  | nil => exact ⟨first, hbegin⟩
  | append_singleton beats b ih =>
    obtain ⟨c, hattended, hc⟩ := ih
    cases b with
    | own spawn =>
      obtain ⟨d, hsteps, hd⟩ := hown beats c spawn hattended hc
      rw [attend_concat]
      exact ⟨d, hattended.steps hsteps, hd⟩
    | aside a =>
      have hd := haside beats c a hattended hc
      rw [attend_concat]
      exact ⟨c, hattended.aside a, hd⟩

end Supervisor

end QueryConsole
