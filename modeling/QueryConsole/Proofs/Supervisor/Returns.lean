import QueryConsole.Proofs.Supervisor.Interleaving

/-!
# What a stop returns

When no call holds the lock, the handle on a daemon is kept exactly if a start has succeeded and
nothing has returned since but starts that were refused. A call to stop the daemon returns how that
daemon ended if its handle is kept, and nothing otherwise.

## Main definitions

- `Supervisor.returns`: the calls that get over in a run, in order
- `Supervisor.Owed`: the next stop owes an exit status
- `Supervisor.Fetching`: what a call to stop the daemon does with the handle

## Main results

- `Supervisor.handle_reached`: the handle is kept exactly if an exit status is owed
- `Supervisor.attended_handle`: what a stop returns, in terms of the handle
- `Supervisor.honest_reached`: what a watch has found is how the process ended
-/

namespace QueryConsole

namespace Supervisor

variable {s t : Supervisor} {call child : Nat} {c d : Call} {spawn : Spawn} {past : List Call}
  {status : ExitStatus} {beats : List Beat}

/-! ## The calls that get over -/

/-- The call that gets over in a step, if one does. -/
def returned (s : Supervisor) : Move → List Call
  | .call call spawn =>
    if (s.calls[call]?).any Call.isOver then []
    else ((s.step (.call call spawn)).1.calls[call]?).toList.filter Call.isOver
  | _ => []

/-- The calls that get over in a run, in order. -/
def returns (s : Supervisor) : List Move → List Call
  | [] => []
  | m :: rest => s.returned m ++ (s.step m).1.returns rest

theorem returns_concat (s : Supervisor) (moves : List Move) (m : Move) :
    s.returns (moves ++ [m]) = s.returns moves ++ (s.runSteps moves).1.returned m := by
  induction moves generalizing s with
  | nil => simp [returns, runSteps]
  | cons first moves ih => simp [returns, runSteps, ih, List.append_assoc]

theorem returned_eq_nil (hcall : s.calls[call]? = some c) (hover : c.isOver = true) :
    s.returned (.call call spawn) = [] := by
  simp [returned, hcall, hover]

theorem returned_eq (hcall : s.calls[call]? = some c) (hc : c.isOver = false)
    (hd : (s.callStep call spawn).1.calls[call]? = some d) :
    s.returned (.call call spawn) = if d.isOver then [d] else [] := by
  have hd' : (s.step (.call call spawn)).1.calls[call]? = some d := hd
  cases hover : d.isOver <;> simp [returned, hcall, hc, hd', hover]

/-! ## The handle -/

inductive Call.IsRefused : Call → Prop
  | refused {state : State} : IsRefused (.started (.error (.active state)))

/-- The next stop owes an exit status: a start has succeeded, and nothing has returned since but
starts that were refused. -/
def Owed (past : List Call) : Prop :=
  ∃ before later, past = before ++ .started (.ok ()) :: later ∧ ∀ c ∈ later, c.IsRefused

theorem owed_concat :
    Owed (past ++ [c]) ↔ c = .started (.ok ()) ∨ c.IsRefused ∧ Owed past := by
  constructor
  · rintro ⟨before, later, he, hlater⟩
    obtain rfl | ⟨later, last, rfl⟩ := List.eq_nil_or_concat later
    · exact .inl (List.singleton_inj.1 (List.append_inj' he rfl).2)
    · rw [List.concat_eq_append] at he hlater
      rw [← List.cons_append, ← List.append_assoc] at he
      obtain ⟨rfl, hlast⟩ := List.append_inj' he rfl
      obtain rfl := List.singleton_inj.1 hlast
      exact .inr ⟨hlater c (by simp), before, later, rfl, fun d hd => hlater d (by simp [hd])⟩
  · rintro (rfl | ⟨hc, before, later, rfl, hlater⟩)
    · exact ⟨past, [], rfl, by simp⟩
    · refine ⟨before, later ++ [c], by simp, fun d hd => ?_⟩
      obtain hd | hd := List.mem_append.1 hd
      · exact hlater d hd
      · rw [List.mem_singleton.1 hd]
        exact hc

/-- Where no call does anything to the handle, it is kept exactly if an exit status is owed. -/
def HandleOwed (s : Supervisor) (past : List Call) : Prop :=
  s.locked = false ∨ .checking ∈ s.calls → ((∃ child, s.handle = some child) ↔ Owed past)

/-- A call gets over: if it was refused nothing has changed, otherwise it has settled whether there
is a handle. -/
theorem HandleOwed.over (h : t.Fits d) (hover : d.isOver = true)
    (hrefused : d.IsRefused → ((∃ child, t.handle = some child) ↔ Owed past)) :
    (∃ child, t.handle = some child) ↔ Owed (past ++ [d]) := by
  have hnone : t.handle = none → d ≠ .started (.ok ()) → ¬ d.IsRefused →
      ((∃ child, t.handle = some child) ↔ Owed (past ++ [d])) := by
    intro hhandle hok hnot
    rw [owed_concat, hhandle]
    simp [hok, hnot]
  obtain h | ⟨stuck, h⟩ := h
  · cases h with
    | refused h =>
      rw [owed_concat, hrefused .refused]
      simp [Call.IsRefused.refused]
    | failed h => exact hnone h.handle (by simp) (by rintro ⟨⟩)
    | launched h hhandle =>
      rw [owed_concat]
      simp [hhandle]
    | _ => cases hover
  · cases h with
    | nothing h => exact hnone h.handle (by simp) (by rintro ⟨⟩)
    | stopped h => exact hnone h.handle (by simp) (by rintro ⟨⟩)
    | _ => cases hover

/-- A call that takes the lock or looks at the state leaves the handle as it is. -/
theorem HandleOwed.early (h : s.HandleOwed past) (hcall : s.calls[call]? = some c)
    (hlock : s.locked = c.works) (hc : c = .starting ∨ c = .checking ∨ c = .stopping) :
    (∃ child, (s.callStep call spawn).1.handle = some child) ↔ Owed past := by
  have hhandle : (s.callStep call spawn).1.handle = s.handle := by
    obtain rfl | rfl | rfl := hc
    · exact (callStep_of_isEarly hcall rfl spawn).2.1
    · exact (callStep_of_isEarly hcall rfl spawn).2.1
    · rw [callStep.eq_def, hcall]
      dsimp only
      split <;> rfl
  rw [hhandle]
  obtain rfl | rfl | rfl := hc
  · exact h (.inl hlock)
  · exact h (.inr (List.mem_of_getElem? hcall))
  · exact h (.inl hlock)

theorem HandleOwed.steps (h : s.HandleOwed past) (hcall : s.calls[call]? = some c)
    (hover : c.isOver = false) (hfits : s.Fits c) (hlock : s.locked = c.works)
    (hothers : ∀ j d, j ≠ call → s.calls[j]? = some d → d.works = false) :
    (s.callStep call spawn).1.HandleOwed (past ++ s.returned (.call call spawn)) := by
  obtain ⟨d, hsteps, hfits⟩ := hfits.step hcall hlock spawn
  have hlt := (List.getElem?_eq_some_iff.1 hcall).1
  have hd : (s.callStep call spawn).1.calls[call]? = some d := by
    rw [hsteps.calls, List.getElem?_set_self hlt]
  have hnext := next_callStep hcall hd
  -- an early call comes from an early one
  have hearly : d.isEarly = true → c = .starting ∨ c = .checking ∨ c = .stopping := by
    intro hd
    cases hc : c.isEarly with
    | false =>
      rw [hnext.isEarly hc] at hd
      cases hd
    | true =>
      cases c with
      | starting => exact .inl rfl
      | checking => exact .inr (.inl rfl)
      | started result => cases hover
      | _ => cases hc
  rw [returned_eq hcall hover hd]
  intro hfree
  cases hdover : d.isOver with
  | true =>
    refine HandleOwed.over hfits hdover fun hrefused => h.early hcall hlock (hearly ?_)
    cases hrefused
    rfl
  | false =>
    simp only [Bool.false_eq_true, if_false, List.append_nil]
    refine h.early hcall hlock ?_
    cases hworks : c.works with
    | false =>
      cases c with
      | starting => exact .inl rfl
      | stopping => exact .inr (.inr rfl)
      | started result => cases hover
      | stopped result => cases hover
      | _ => cases hworks
    | true =>
      -- the call keeps the lock, so that it is the one that is looking at the state
      have hdworks : d.works = true := by
        cases hdworks : d.works with
        | true => rfl
        | false =>
          rw [hnext.isOver hworks hdworks] at hdover
          cases hdover
      obtain hunlocked | hmem := hfree
      · rw [hsteps.locked, hdworks] at hunlocked
        cases hunlocked
      · obtain ⟨j, hj⟩ := List.getElem?_of_mem hmem
        by_cases hjcall : j = call
        · subst hjcall
          cases hd.symm.trans hj
          exact hearly rfl
        · rw [hsteps.calls, List.getElem?_set_ne (Ne.symm hjcall)] at hj
          cases hothers j _ hjcall hj

theorem HandleOwed.callStep (h : s.HandleOwed past) (hkept : s.Kept) (call : Nat)
    (spawn : Spawn) :
    (s.callStep call spawn).1.HandleOwed (past ++ s.returned (.call call spawn)) := by
  cases hcall : s.calls[call]? with
  | none =>
    have hnil : s.returned (.call call spawn) = [] := by
      simp [returned, step, callStep_of_none hcall, hcall]
    rw [hnil, List.append_nil, callStep_of_none hcall]
    exact h
  | some c =>
    cases hover : c.isOver with
    | true =>
      rw [returned_eq_nil hcall hover, List.append_nil,
        callStep_of_blocked hcall (Call.works_of_isOver hover) (.inl hover)]
      exact h
    | false =>
      obtain ⟨hworks, hlock⟩ | ⟨hfits, hlock, hothers⟩ := hkept.fits hcall hover
      · have hsame := callStep_of_blocked hcall hworks (.inr hlock) spawn
        rw [returned_eq hcall hover (hsame ▸ hcall), hover, hsame]
        simpa using h
      · exact h.steps hcall hover hfits hlock hothers

theorem HandleOwed.step (h : s.HandleOwed past) (hkept : s.Kept) (m : Move) :
    (s.step m).1.HandleOwed (past ++ s.returned m) := by
  have haside : ∀ a : Aside, (s.step a.move).1.HandleOwed past := by
    intro a hfree
    rw [(passed s a).handle]
    rw [(calls_aside s a).1, (calls_aside s a).2] at hfree
    exact h hfree
  have happend : ∀ c, c ≠ .checking → HandleOwed { s with calls := s.calls ++ [c] } past := by
    intro c hc hfree
    refine h (hfree.imp_right fun hmem => ?_)
    obtain hmem | hmem := List.mem_append.1 hmem
    · exact hmem
    · exact absurd (List.mem_singleton.1 hmem).symm hc
  -- nothing else gets over
  have hnil : ∀ {t : Supervisor}, t.HandleOwed past → t.HandleOwed (past ++ []) := by
    intro t ht
    rwa [List.append_nil]
  cases m with
  | start => exact hnil (happend .starting (by simp))
  | stop => exact hnil (happend .stopping (by simp))
  | call call spawn => exact h.callStep hkept call spawn
  | exit child status => exact hnil (haside (.exit child status))
  | watch child wordFirst => exact hnil (haside (.watch child wordFirst))
  | expire child => exact hnil (haside (.expire child))

/-- In every run, whenever no call does anything to the handle, it is kept exactly if an exit status
is owed. -/
theorem handle_reached (moves : List Move) :
    (reached moves).HandleOwed (returns {} moves) := by
  induction moves using List.reverseRecOn with
  | nil =>
    intro hfree
    simp [reached, runSteps, returns, Owed]
  | append_singleton moves m ih =>
    rw [reached_concat, returns_concat]
    exact ih.step (kept_reached moves) m

/-! ## What a stop returns -/

/-- What a call to stop the daemon does with the handle that was kept when it came in. -/
inductive Fetching (s t : Supervisor) : Call → Prop
  | waiting {c : Call} (hc : c = .stopping ∨ c = .taking) (h : t.handle = s.handle) :
    Fetching s t c
  | nothing (h : s.handle = none) : Fetching s t (.stopped none)
  | taken {child : Nat} {c : Call}
    (hc : c = .looking child ∨ c = .noting child ∨ c = .telling child ∨ c = .awaiting child)
    (h : s.handle = some child) : Fetching s t c
  | stopped {child : Nat} {status : ExitStatus} (h : s.handle = some child)
    (hresult : t.result? child = some status) : Fetching s t (.stopped (some status))

theorem Fetching.passed {u : Supervisor} (h : Fetching s t c) (hpassed : Passed t u) :
    Fetching s u c := by
  cases h with
  | waiting hc h => exact .waiting hc (hpassed.handle.trans h)
  | nothing h => exact .nothing h
  | taken hc h => exact .taken hc h
  | stopped h hresult => exact .stopped h (hpassed.result? hresult)

/-- Each step of the call finds what watches have found before. -/
theorem Fetching.step (h : Fetching s t c) (hcall : t.calls[call]? = some c)
    (hlock : t.locked = c.works) (spawn : Spawn) :
    ∃ d, Steps t call d (t.callStep call spawn).1 ∧ Fetching s (t.callStep call spawn).1 d ∧
      ∀ child status, t.result? child = some status →
        (t.callStep call spawn).1.result? child = some status := by
  cases h with
  | waiting hc h =>
    obtain rfl | rfl := hc
    · rw [callStep.eq_def, hcall]
      simp only [show t.locked = false from hlock]
      exact ⟨.taking, ⟨rfl, rfl⟩, .waiting (.inr rfl) h, fun child status hresult => hresult⟩
    · rw [callStep.eq_def, hcall]
      cases hhandle : t.handle with
      | none =>
        exact ⟨_, ⟨rfl, rfl⟩, .nothing (h.symm.trans hhandle), fun child status hresult => hresult⟩
      | some child =>
        exact ⟨.looking child, ⟨rfl, hlock⟩, .taken (.inl rfl) (h.symm.trans hhandle),
          fun child status hresult => hresult⟩
  | nothing h =>
    rw [callStep.eq_def, hcall]
    exact ⟨_, .refl hcall hlock, .nothing h, fun child status hresult => hresult⟩
  | @taken child c hc h =>
    obtain rfl | rfl | rfl | rfl := hc
    · rw [callStep.eq_def, hcall]
      by_cases hstate : t.state = .running
      · simp only [hstate, if_true]
        exact ⟨_, ⟨rfl, hlock⟩, .taken (.inr (.inl rfl)) h, fun child status hresult => hresult⟩
      · simp only [hstate, if_false]
        exact ⟨_, ⟨rfl, hlock⟩, .taken (.inr (.inr (.inl rfl))) h,
          fun child status hresult => hresult⟩
    · rw [callStep.eq_def, hcall]
      exact ⟨_, ⟨rfl, hlock⟩, .taken (.inr (.inr (.inl rfl))) h,
        fun child status hresult => hresult⟩
    · rw [callStep.eq_def, hcall]
      refine ⟨_, ⟨rfl, hlock⟩, .taken (.inr (.inr (.inr rfl))) h, fun other status hresult => ?_⟩
      have hpassed : Passed (t.put call (.awaiting child))
          ((t.put call (.awaiting child)).change child ({ · with told := true })) :=
        passed_change fun c _ => ⟨rfl, fun _ h => h, fun h => h⟩
      exact hpassed.result? hresult
    · rw [callStep.eq_def, hcall]
      cases hresult : t.result? child with
      | none =>
        simp only [hresult]
        exact ⟨_, .refl hcall hlock, .taken (.inr (.inr (.inr rfl))) h,
          fun child status hresult => hresult⟩
      | some status =>
        simp only [hresult]
        exact ⟨_, ⟨rfl, rfl⟩, .stopped h hresult, fun child status hresult => hresult⟩
  | stopped h hresult =>
    rw [callStep.eq_def, hcall]
    exact ⟨_, .refl hcall hlock, .stopped h hresult, fun child status hresult => hresult⟩

/-- While a call to stop the daemon is attended to, it does with the handle what it should, and what
watches have found stays. -/
theorem attended_handle (hlock : s.locked = false) (beats : List Beat) :
    ∃ c, Attended s c (s.attend .stop beats) ∧ Fetching s (s.attend .stop beats) c ∧
      ∀ child status, s.result? child = some status →
        (s.attend .stop beats).result? child = some status := by
  refine attend_induction .stop .stopping (P := fun beats c => Fetching s (s.attend .stop beats) c ∧
    ∀ child status, s.result? child = some status →
      (s.attend .stop beats).result? child = some status)
    ⟨⟨rfl, hlock⟩, .waiting (.inl rfl) rfl, fun child status hresult => hresult⟩ ?_ ?_ beats
  · rintro beats c spawn hattended ⟨hfetching, hfound⟩
    obtain ⟨d, hsteps, hd, hstays⟩ := hfetching.step hattended.getElem? hattended.locked spawn
    rw [attend_concat]
    exact ⟨d, hsteps, hd,
      fun child status hresult => hstays child status (hfound child status hresult)⟩
  · rintro beats c a hattended ⟨hfetching, hfound⟩
    have hpassed := passed (s.attend .stop beats) a
    rw [attend_concat]
    exact ⟨hfetching.passed hpassed,
      fun child status hresult => hpassed.result? (hfound child status hresult)⟩

/-- A stop returns nothing exactly if no handle was kept when it came in. -/
theorem stopped_none_iff (hlock : s.locked = false) {result : Option ExitStatus}
    (hover : s.outcome .stop beats = some (.stopped result)) :
    result = none ↔ s.handle = none := by
  obtain ⟨c, hattended, hfetching, -⟩ := attended_handle hlock beats
  rw [outcome, hattended.getElem?] at hover
  cases hover
  cases hfetching with
  | waiting hc h => obtain hc | hc := hc <;> cases hc
  | nothing h => simp [h]
  | taken hc h => obtain hc | hc | hc | hc := hc <;> cases hc
  | stopped h hresult => simp [h]

/-- A stop returns what the watch over the process with the handle has found, if it had found it
before. -/
theorem stopped_of_found (hlock : s.locked = false) (hhandle : s.handle = some child)
    (hfound : s.result? child = some status) {result : Option ExitStatus}
    (hover : s.outcome .stop beats = some (.stopped result)) : result = some status := by
  obtain ⟨c, hattended, hfetching, hstays⟩ := attended_handle hlock beats
  rw [outcome, hattended.getElem?] at hover
  cases hover
  cases hfetching with
  | waiting hc h => obtain hc | hc := hc <;> cases hc
  | nothing h => cases hhandle.symm.trans h
  | taken hc h => obtain hc | hc | hc | hc := hc <;> cases hc
  | stopped h hresult =>
    cases hhandle.symm.trans h
    exact hresult.symm.trans (hstays child status hfound)

/-! ## What watches find -/

/-- What watches have found is how the processes ended. -/
def Honest (s : Supervisor) : Prop :=
  ∀ c ∈ s.children, c.Honest

/-- A process is what it was, unless it is the one that was changed. -/
theorem getElem?_modify_cases {l : List Child} {i j : Nat} {f : Child → Child} {d : Child}
    (h : (l.modify i f)[j]? = some d) :
    l[j]? = some d ∨ ∃ c, l[j]? = some c ∧ d = f c := by
  rw [List.getElem?_modify] at h
  obtain ⟨c, hc, rfl⟩ := Option.map_eq_some_iff.1 h
  by_cases hi : i = j
  · exact .inr ⟨c, hc, by simp [hi]⟩
  · exact .inl (by simp [hi, hc])

theorem Honest.modify {f : Child → Child} (h : s.Honest) (hf : ∀ c, c.Honest → (f c).Honest) :
    ∀ c ∈ s.children.modify child f, c.Honest := by
  intro c hc
  obtain ⟨j, hj⟩ := List.getElem?_of_mem hc
  obtain hsame | ⟨d, hd, rfl⟩ := getElem?_modify_cases hj
  · exact h c (List.mem_of_getElem? hsame)
  · exact hf d (h d (List.mem_of_getElem? hd))

/-- Calls begin watches and tell them to stop; they find nothing themselves. -/
theorem Honest.callStep (h : s.Honest) (call : Nat) (spawn : Spawn) :
    (s.callStep call spawn).1.Honest := by
  have hwaiting : ∀ c : Child, Child.Honest { c with watch := .waiting } := fun c =>
    Child.honest_of_isUnreaped rfl
  rw [callStep.eq_def]
  -- step by step, in the order in which a call takes them
  split
  · split <;> exact h
  · split <;> exact h
  · split <;> exact h
  · split <;> exact h
  · exact h
  · split
    · intro c hc
      obtain hc | hc := List.mem_append.1 hc
      · exact h c hc
      · rw [List.mem_singleton.1 hc]
        exact Child.honest_of_isUnreaped rfl
    · exact h
  · exact h
  · exact h
  · exact h.modify fun c _ => hwaiting c
  · split <;> exact h
  · split <;> exact h
  · exact h
  · exact h
  · exact h.modify fun c hc => hc
  · split <;> exact h
  · exact h

theorem Honest.aside (h : s.Honest) (a : Aside) : (s.step a.move).1.Honest := by
  intro d hd
  obtain ⟨j, hj, rfl⟩ := List.getElem_of_mem hd
  have hgrow := List.forall₂_iff_get.1 (passed s a).children
  have hj' : j < s.children.length := hgrow.1 ▸ hj
  exact (hgrow.2 j hj' hj).honest (h _ (List.getElem_mem hj'))

/-- In every run, what watches have found is how the processes ended. -/
theorem Honest.runSteps (h : s.Honest) (moves : List Move) : (s.runSteps moves).1.Honest := by
  induction moves generalizing s with
  | nil => exact h
  | cons m moves ih => exact ih (step_cases (P := Honest) h h h.callStep h.aside m)

theorem honest_reached (moves : List Move) : (reached moves).Honest :=
  Honest.runSteps (s := {}) nofun moves

end Supervisor

end QueryConsole
