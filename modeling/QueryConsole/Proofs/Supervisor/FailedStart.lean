import QueryConsole.Proofs.Supervisor.Returns

/-!
# Starts that fail

A call to start the daemon that fails is compared with a supervisor that goes on without it. A call
that is refused changes nothing. A call that cannot spawn the daemon leaves the state as it would
have been, but it has dropped the handle on an earlier daemon that has ended by itself, and how that
one ended is never returned.

## Main definitions

- `Supervisor.meanwhile`: what goes on without the call
- `Supervisor.Alike`: two supervisors with the same daemon
- `Supervisor.Apart`: what a call to start the daemon has changed so far
- `Supervisor.Forgets`: what a failed start leaves behind

## Main results

- `Supervisor.attended_apart`: what a call to start the daemon has changed, at each of its steps
- `Supervisor.outcome_of_alike`: calls to stop the same daemon return the same
- `failed_start_drops_handle`: a failed start changes nothing but what an unspawned daemon drops
-/

namespace QueryConsole

namespace Supervisor

variable {s t u : Supervisor} {call other child : Nat} {c : Call} {beats : List Beat}

/-! ## The same daemon -/

structure Alike (u t : Supervisor) : Prop where
  state : t.state = u.state
  handle : t.handle = u.handle
  children : t.children = u.children

/-- A step that no call takes sees nothing but the processes, and writes nothing but what it has
made of them and that the daemon is stopped. -/
theorem aside_alike (h : t.children = u.children) (a : Aside) :
    (t.step a.move).1.children = (u.step a.move).1.children ∧
      (t.state = u.state → (t.step a.move).1.state = (u.step a.move).1.state) := by
  have hsame : ∀ child f, (t.change child f).children = (u.change child f).children := by
    intro child f
    rw [change, change, h]
  cases a with
  | exit child status => exact ⟨hsame child _, id⟩
  | watch child wordFirst =>
    simp only [Aside.move, step, watchStep, h]
    split
    · split
      · split <;> exact ⟨hsame child _, id⟩
      · split
        · exact ⟨hsame child _, id⟩
        · exact ⟨h, id⟩
    · exact ⟨hsame child _, id⟩
    · exact ⟨hsame child _, id⟩
    · exact ⟨hsame child _, fun _ => rfl⟩
    · exact ⟨h, id⟩
  | expire child =>
    simp only [Aside.move, step, expire, h]
    split
    · exact ⟨hsame child _, id⟩
    · exact ⟨h, id⟩

theorem Alike.aside (h : Alike u t) (a : Aside) :
    Alike (u.step a.move).1 (t.step a.move).1 where
  state := (aside_alike h.children a).2 h.state
  handle := (passed t a).handle.trans (h.handle.trans (passed u a).handle.symm)
  children := (aside_alike h.children a).1

/-- A call makes the same step wherever it stands among the calls. -/
theorem Alike.callStep (h : Alike u t) (hlock : t.locked = u.locked)
    (hcall : t.calls[call]? = u.calls[other]?) (spawn : Spawn) :
    Alike (u.callStep other spawn).1 (t.callStep call spawn).1 ∧
      (t.callStep call spawn).1.locked = (u.callStep other spawn).1.locked ∧
      (t.callStep call spawn).1.calls[call]? = (u.callStep other spawn).1.calls[other]? := by
  obtain ⟨state, locked, handle, children, calls⟩ := t
  obtain ⟨hstate, hhandle, hchildren⟩ := h
  dsimp only at hstate hhandle hchildren hlock hcall
  subst hstate hhandle hchildren hlock
  -- now the two differ in their calls only
  have hresult : ∀ child, result? ⟨u.state, u.locked, u.handle, u.children, calls⟩ child =
      u.result? child := fun _ => rfl
  have hstay : Alike u ⟨u.state, u.locked, u.handle, u.children, calls⟩ ∧ u.locked = u.locked ∧
      calls[call]? = u.calls[other]? := ⟨⟨rfl, rfl, rfl⟩, rfl, hcall⟩
  have hput : ∀ {c} d, u.calls[other]? = some c →
      (calls.set call d)[call]? = (u.calls.set other d)[other]? := by
    intro c d hc
    rw [List.getElem?_set_self (List.getElem?_eq_some_iff.1 hc).1,
      List.getElem?_set_self (List.getElem?_eq_some_iff.1 (hcall.trans hc)).1]
  rw [callStep.eq_def, callStep.eq_def]
  simp only [hcall, hresult]
  -- step by step, in the order in which a call takes them
  split
  · split
    · exact hstay
    · exact ⟨⟨rfl, rfl, rfl⟩, rfl, hput _ ‹_›⟩
  · split
    · exact ⟨⟨rfl, rfl, rfl⟩, rfl, hput _ ‹_›⟩
    · exact ⟨⟨rfl, rfl, rfl⟩, rfl, hput _ ‹_›⟩
  · split
    · exact ⟨⟨rfl, rfl, rfl⟩, rfl, hput _ ‹_›⟩
    · exact ⟨⟨rfl, rfl, rfl⟩, rfl, hput _ ‹_›⟩
  · split
    · exact ⟨⟨rfl, rfl, rfl⟩, rfl, hput _ ‹_›⟩
    · exact hstay
  · exact ⟨⟨rfl, rfl, rfl⟩, rfl, hput _ ‹_›⟩
  · split
    · exact ⟨⟨rfl, rfl, rfl⟩, rfl, hput _ ‹_›⟩
    · exact ⟨⟨rfl, rfl, rfl⟩, rfl, hput _ ‹_›⟩
  · exact ⟨⟨rfl, rfl, rfl⟩, rfl, hput _ ‹_›⟩
  · exact ⟨⟨rfl, rfl, rfl⟩, rfl, hput _ ‹_›⟩
  · exact ⟨⟨rfl, rfl, rfl⟩, rfl, hput _ ‹_›⟩
  · split
    · exact hstay
    · exact ⟨⟨rfl, rfl, rfl⟩, rfl, hput _ ‹_›⟩
  · split
    · exact ⟨⟨rfl, rfl, rfl⟩, rfl, hput _ ‹_›⟩
    · exact ⟨⟨rfl, rfl, rfl⟩, rfl, hput _ ‹_›⟩
  · split
    · exact ⟨⟨rfl, rfl, rfl⟩, rfl, hput _ ‹_›⟩
    · exact ⟨⟨rfl, rfl, rfl⟩, rfl, hput _ ‹_›⟩
  · exact ⟨⟨rfl, rfl, rfl⟩, rfl, hput _ ‹_›⟩
  · exact ⟨⟨rfl, rfl, rfl⟩, rfl, hput _ ‹_›⟩
  · split
    · exact ⟨⟨rfl, rfl, rfl⟩, rfl, hput _ ‹_›⟩
    · exact hstay
  · exact hstay

/-- Calls to stop the same daemon get equally far, and in the end return the same. -/
theorem outcome_of_alike (h : Alike u t) (hlock : t.locked = u.locked) (beats : List Beat) :
    t.outcome .stop beats = u.outcome .stop beats := by
  suffices hrun : Alike (u.attend .stop beats) (t.attend .stop beats) ∧
      (t.attend .stop beats).locked = (u.attend .stop beats).locked ∧
      t.outcome .stop beats = u.outcome .stop beats from hrun.2.2
  induction beats using List.reverseRecOn with
  | nil =>
    refine ⟨⟨h.state, h.handle, h.children⟩, hlock, ?_⟩
    simp [outcome, attend, runSteps, step]
  | append_singleton beats b ih =>
    obtain ⟨halike, hlock, hcall⟩ := ih
    rw [outcome, outcome] at hcall ⊢
    rw [attend_concat, attend_concat]
    cases b with
    | own spawn => exact halike.callStep hlock hcall spawn
    | aside a =>
      have ht := calls_aside (t.attend .stop beats) a
      have hu := calls_aside (u.attend .stop beats) a
      refine ⟨halike.aside a, ht.2.trans (hlock.trans hu.2.symm), ?_⟩
      rw [Beat.move, ht.1, Beat.move, hu.1]
      exact hcall

/-! ## With the call and without it -/

def Beat.aside? : Beat → Option Aside
  | .own _ => none
  | .aside a => some a

def meanwhile (s : Supervisor) (beats : List Beat) : Supervisor :=
  (s.runSteps ((beats.filterMap Beat.aside?).map Aside.move)).1

theorem meanwhile_own (s : Supervisor) (beats : List Beat) (spawn : Spawn) :
    s.meanwhile (beats ++ [.own spawn]) = s.meanwhile beats := by
  rw [meanwhile, List.filterMap_append, List.map_append, meanwhile]
  exact congrArg (fun moves => (s.runSteps moves).1) (List.append_nil _)

theorem meanwhile_aside (s : Supervisor) (beats : List Beat) (a : Aside) :
    s.meanwhile (beats ++ [.aside a]) = ((s.meanwhile beats).step a.move).1 := by
  rw [meanwhile, List.filterMap_append, List.map_append, meanwhile]
  exact runSteps_concat ..

/-- Without the call no other call does anything either. -/
theorem rest_meanwhile (hlock : s.locked = false) (hrest : s.Rest) (beats : List Beat) :
    (s.meanwhile beats).Rest ∧ (s.meanwhile beats).locked = false := by
  induction beats using List.reverseRecOn with
  | nil => exact ⟨hrest, hlock⟩
  | append_singleton beats b ih =>
    cases b with
    | own spawn =>
      rw [meanwhile_own]
      exact ih
    | aside a =>
      rw [meanwhile_aside, (calls_aside _ a).2]
      exact ⟨(ih.1.passed (passed _ a)).1, ih.2⟩

/-- What a call to start the daemon has changed so far, against what goes on without it. -/
inductive Apart (u t : Supervisor) : Call → Prop
  | early {c : Call} (hc : c.isEarly = true) (h : Alike u t) : Apart u t c
  | clearing (h : Alike u t) (hstopped : u.state = .stopped) : Apart u t .clearing
  /-- the handle is dropped, and nothing else is changed -/
  | dropped {c : Call} (hc : (∃ stale, c = .joining stale) ∨ c = .marking ∨
      ∃ fault, c = .started (.error (.spawn fault)))
    (hchildren : t.children = u.children) (hhandle : t.handle = none) (hstate : t.state = .stopped)
    (hstopped : u.state = .stopped) : Apart u t c
  | starting {c : Call} (hc : c = .spawning ∨ ∃ fault, c = .failing fault)
    (hchildren : t.children = u.children) (hhandle : t.handle = none)
    (hstate : t.state = .starting) (hstopped : u.state = .stopped) : Apart u t c
  | spawned {c : Call} (hc : (∃ child, c = .announcing child) ∨ (∃ child, c = .keeping child) ∨
      c = .started (.ok ())) : Apart u t c

/-- While the daemon is stopped without the call, steps aside do nothing to it with the call
either. -/
theorem aside_of_stopped (hrest : u.Rest) (hstopped : u.state = .stopped)
    (hchildren : t.children = u.children) (a : Aside) :
    (u.step a.move).1.state = .stopped ∧ (t.step a.move).1.state = t.state := by
  obtain ⟨handle, n, hu⟩ := hrest.dones hstopped
  have ht : t.At t.state t.handle (dones n) :=
    ⟨rfl, rfl, by rw [← hu.stages, stages, stages, hchildren]⟩
  exact ⟨(hu.dones_passed (passed u a)).state, (ht.dones_passed (passed t a)).state⟩

theorem Apart.aside (h : Apart u t c) (hrest : u.Rest) (a : Aside) :
    Apart (u.step a.move).1 (t.step a.move).1 c := by
  cases h with
  | early hc h => exact .early hc (h.aside a)
  | clearing h hstopped =>
    exact .clearing (h.aside a) (aside_of_stopped hrest hstopped h.children a).1
  | dropped hc hchildren hhandle hstate hstopped =>
    obtain ⟨hu, ht⟩ := aside_of_stopped hrest hstopped hchildren a
    exact .dropped hc (aside_alike hchildren a).1 ((passed t a).handle.trans hhandle)
      (ht.trans hstate) hu
  | starting hc hchildren hhandle hstate hstopped =>
    obtain ⟨hu, ht⟩ := aside_of_stopped hrest hstopped hchildren a
    exact .starting hc (aside_alike hchildren a).1 ((passed t a).handle.trans hhandle)
      (ht.trans hstate) hu
  | spawned hc => exact .spawned hc

/-- Each step of the call changes no more than it should. -/
theorem Apart.step (h : Apart u t c) (hcall : t.calls[call]? = some c) (hlock : t.locked = c.works)
    (spawn : Spawn) :
    ∃ d, Steps t call d (t.callStep call spawn).1 ∧ Apart u (t.callStep call spawn).1 d := by
  cases h with
  | early hc h =>
    rw [callStep.eq_def, hcall]
    cases c with
    | starting =>
      simp only [show t.locked = false from hlock]
      exact ⟨.checking, ⟨rfl, rfl⟩, .early rfl ⟨h.state, h.handle, h.children⟩⟩
    | checking =>
      by_cases hstate : t.state = .stopped
      · simp only [hstate, if_true]
        exact ⟨.clearing, ⟨rfl, hlock⟩,
          .clearing ⟨h.state, h.handle, h.children⟩ (h.state.symm.trans hstate)⟩
      · simp only [hstate, if_false]
        exact ⟨_, ⟨rfl, rfl⟩, .early rfl ⟨h.state, h.handle, h.children⟩⟩
    | started result => exact ⟨_, .refl hcall hlock, .early hc h⟩
    | _ => cases hc
  | clearing h hstopped =>
    rw [callStep.eq_def, hcall]
    cases hhandle : t.handle with
    | none =>
      exact ⟨_, ⟨rfl, hlock⟩, .dropped (.inr (.inl rfl)) h.children hhandle
        (h.state.trans hstopped) hstopped⟩
    | some stale =>
      exact ⟨_, ⟨rfl, hlock⟩, .dropped (.inl ⟨stale, rfl⟩) h.children rfl
        (h.state.trans hstopped) hstopped⟩
  | dropped hc hchildren hhandle hstate hstopped =>
    obtain ⟨stale, rfl⟩ | rfl | ⟨fault, rfl⟩ := hc
    · rw [callStep.eq_def, hcall]
      dsimp only
      split
      · exact ⟨_, ⟨rfl, hlock⟩, .dropped (.inr (.inl rfl)) hchildren hhandle hstate hstopped⟩
      · exact ⟨_, .refl hcall hlock, .dropped (.inl ⟨stale, rfl⟩) hchildren hhandle hstate hstopped⟩
    · rw [callStep.eq_def, hcall]
      exact ⟨_, ⟨rfl, hlock⟩, .starting (.inl rfl) hchildren hhandle rfl hstopped⟩
    · rw [callStep.eq_def, hcall]
      exact ⟨_, .refl hcall hlock,
        .dropped (.inr (.inr ⟨fault, rfl⟩)) hchildren hhandle hstate hstopped⟩
  | starting hc hchildren hhandle hstate hstopped =>
    obtain rfl | ⟨fault, rfl⟩ := hc
    · rw [callStep.eq_def, hcall]
      cases spawn with
      | ok _ => exact ⟨_, ⟨rfl, hlock⟩, .spawned (.inl ⟨_, rfl⟩)⟩
      | error fault =>
        exact ⟨_, ⟨rfl, hlock⟩, .starting (.inr ⟨fault, rfl⟩) hchildren hhandle hstate hstopped⟩
    · rw [callStep.eq_def, hcall]
      exact ⟨_, ⟨rfl, rfl⟩,
        .dropped (.inr (.inr ⟨fault, rfl⟩)) hchildren hhandle rfl hstopped⟩
  | spawned hc =>
    obtain ⟨child, rfl⟩ | ⟨child, rfl⟩ | rfl := hc
    · rw [callStep.eq_def, hcall]
      exact ⟨_, ⟨rfl, hlock⟩, .spawned (.inr (.inl ⟨child, rfl⟩))⟩
    · rw [callStep.eq_def, hcall]
      exact ⟨_, ⟨rfl, rfl⟩, .spawned (.inr (.inr rfl))⟩
    · rw [callStep.eq_def, hcall]
      exact ⟨_, .refl hcall hlock, .spawned (.inr (.inr rfl))⟩

theorem attended_apart (hlock : s.locked = false) (hrest : s.Rest) (beats : List Beat) :
    ∃ c, Attended s c (s.attend .start beats) ∧
      Apart (s.meanwhile beats) (s.attend .start beats) c := by
  refine attend_induction .start .starting
    (P := fun beats c => Apart (s.meanwhile beats) (s.attend .start beats) c)
    ⟨⟨rfl, hlock⟩, .early rfl ⟨rfl, rfl, rfl⟩⟩ ?_ ?_ beats
  · intro beats c spawn hattended hapart
    rw [attend_concat, meanwhile_own]
    exact hapart.step hattended.getElem? hattended.locked spawn
  · intro beats c a hattended hapart
    rw [attend_concat, meanwhile_aside]
    exact hapart.aside (rest_meanwhile hlock hrest beats).1 a

/-! ## Failures -/

/-- What a call to start the daemon that has failed leaves behind, against what goes on without
it. -/
structure Forgets (s : Supervisor) (beats : List Beat) (fault : StartFault) : Prop where
  state : (s.attend .start beats).state = (s.meanwhile beats).state
  /-- the next stop returns the same, if the start was refused or there is nothing to be stopped -/
  same : (∃ state, fault = .active state) ∨ (s.meanwhile beats).handle = none →
    ∀ later, (s.attend .start beats).outcome .stop later = (s.meanwhile beats).outcome .stop later
  /-- if the daemon could not be spawned and an earlier one has ended by itself, the next stop
  returns nothing instead of how that one ended -/
  drops : (∃ cause, fault = .spawn cause) → ∀ child, (s.meanwhile beats).handle = some child →
    (∀ later result, (s.attend .start beats).outcome .stop later = some (.stopped result) →
      result = none) ∧
    ∃ c status, (s.meanwhile beats).children[child]? = some c ∧ c.ended = some status ∧
      ∀ later result, (s.meanwhile beats).outcome .stop later = some (.stopped result) →
        result = some status

/-- If the daemon is stopped and there is a handle, it is on a daemon that has ended by itself, and
how it ended has been found. -/
theorem Rest.found (hrest : s.Rest) (hhonest : s.Honest) (hstopped : s.state = .stopped)
    (hhandle : s.handle = some child) : ∃ c status, s.children[child]? = some c ∧
      c.ended = some status ∧ s.result? child = some status := by
  cases hrest with
  | free h => cases h.handle.symm.trans hhandle
  | running h => cases h.state.symm.trans hstopped
  | ended h =>
    cases h.handle.symm.trans hhandle
    have hdone : s.stages[child]? = some .done := by
      rw [h.stages]
      simp [Supervisor.dones]
    obtain ⟨status, hresult⟩ := result?_of_stages hdone
    obtain ⟨c, hc, hwatch⟩ := result?_eq_some_iff.1 hresult
    exact ⟨c, status, hc, hhonest c (List.mem_of_getElem? hc) status (.inr hwatch), hresult⟩
  | stuck h => cases h.handle.symm.trans hhandle

theorem forgets (hquiet : s.Quiet) (hkept : s.Kept) (hhonest : (s.meanwhile beats).Honest)
    {fault : StartFault}
    (hover : s.outcome .start beats = some (.started (.error fault))) : s.Forgets beats fault := by
  obtain ⟨hlock, hrest⟩ := hquiet.rest hkept
  obtain ⟨c, hattended, hapart⟩ := attended_apart hlock hrest beats
  obtain ⟨hrest, hunlocked⟩ := rest_meanwhile hlock hrest beats
  rw [outcome, hattended.getElem?] at hover
  cases hover
  have hlock : (s.attend .start beats).locked = false := hattended.locked
  have hlocks := hlock.trans hunlocked.symm
  cases hapart with
  | early hc h =>
    refine ⟨h.state, fun _ later => outcome_of_alike h hlocks later, ?_⟩
    rintro ⟨cause, rfl⟩
    cases hc
  | dropped hc hchildren hhandle hstate hstopped =>
    obtain ⟨stale, he⟩ | he | ⟨cause, he⟩ := hc
    · cases he
    · cases he
    · cases he
      refine ⟨hstate.trans hstopped.symm, fun hsame later => ?_, fun _ child hchild => ⟨?_, ?_⟩⟩
      · obtain ⟨state, he⟩ | hnone := hsame
        · cases he
        · have halike : Alike (s.meanwhile beats) (s.attend .start beats) :=
            ⟨hstate.trans hstopped.symm, hhandle.trans hnone.symm, hchildren⟩
          exact outcome_of_alike halike hlocks later
      · intro later result hresult
        exact (stopped_none_iff hlock hresult).2 hhandle
      · obtain ⟨c, status, hc, hended, hfound⟩ := hrest.found hhonest hstopped hchild
        exact ⟨c, status, hc, hended,
          fun later result hresult => stopped_of_found hunlocked hchild hfound hresult⟩
  | starting hc =>
    obtain he | ⟨fault, he⟩ := hc <;> cases he
  | spawned hc =>
    obtain ⟨child, he⟩ | ⟨child, he⟩ | he := hc <;> cases he

/-- What a run has left behind when all calls are over, with regard to starts that fail and to what
stops return. -/
structure Remembers (moves : List Move) : Prop where
  /-- what is left behind by a start that fails -/
  forgets : ∀ beats fault,
    (reached moves).outcome .start beats = some (.started (.error fault)) →
      (reached moves).Forgets beats fault
  /-- a stop returns nothing exactly if no exit status is owed -/
  owed : ∀ beats result, (reached moves).outcome .stop beats = some (.stopped result) →
    (result = none ↔ ¬ Owed (returns {} moves))

end Supervisor

open Supervisor

/-- Whatever calls have come in and have ended, in whatever order all steps were taken: a start that
fails leaves the state as it would be without it. The next stop returns what it would have returned,
unless the daemon could not be spawned when an earlier one had ended by itself: then it returns
nothing instead of how that one ended. A stop returns nothing exactly if no start has succeeded, or
if a stop has returned or a start could not spawn the daemon since the last one that has. -/
theorem failed_start_drops_handle (moves : List Move) (hquiet : (reached moves).Quiet) :
    Remembers moves where
  forgets beats fault hover := by
    refine Supervisor.forgets hquiet (kept_reached moves) ?_ hover
    have hmeanwhile : (reached moves).meanwhile beats =
        reached (moves ++ (beats.filterMap Beat.aside?).map Aside.move) := by
      rw [reached, reached, runSteps_append]
      rfl
    rw [hmeanwhile]
    exact honest_reached _
  owed beats result hover := by
    obtain ⟨hlock, -⟩ := hquiet.rest (kept_reached moves)
    rw [stopped_none_iff hlock hover, ← handle_reached moves (.inl hlock)]
    cases (reached moves).handle <;> simp

/-- A daemon that was started and has ended by itself. -/
theorem failed_start_drops_handle_of_ended :
    let moves := .start :: List.replicate 7 (.call 0 (.ok ())) ++
      [.exit 0 (.code 3), .watch 0 false, .watch 0 false]
    (reached moves).Quiet ∧ (reached moves).handle = some 0 ∧ Remembers moves :=
  ⟨by decide, rfl, failed_start_drops_handle _ (by decide)⟩

/-- A daemon that was started and has ended by itself with a code. A stop would return the code; but
if a start comes first and its program is not found any more, the stop returns nothing. -/
theorem failed_start_loses_status :
    let fault : SpawnFault := ⟨"daemon", "No such file or directory (os error 2)"⟩
    let s := reached (.start :: List.replicate 7 (.call 0 (.ok ())) ++
      [.exit 0 (.code 3), .watch 0 false, .watch 0 false])
    let t := s.attend .start (List.replicate 7 (.own (.error fault)))
    s.Quiet ∧ s.state = .stopped ∧
      s.outcome .stop (List.replicate 5 (.own (.ok ()))) = some (.stopped (some (.code 3))) ∧
      t.calls[1]? = some (.started (.error (.spawn fault))) ∧ t.state = .stopped ∧
      t.outcome .stop (List.replicate 5 (.own (.ok ()))) = some (.stopped none) :=
  ⟨by decide, rfl, rfl, rfl, rfl, rfl⟩

end QueryConsole
