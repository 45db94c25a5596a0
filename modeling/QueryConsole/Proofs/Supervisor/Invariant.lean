import Mathlib.Data.List.Nodup
import QueryConsole.Proofs.Supervisor.Turn

/-!
# What supervision keeps up

At every wait the daemon is stopped and all processes are reaped, or it is running or being stopped
and the last process is the only one that is not. This stays so because the lock is held by one call
at most, and because nothing is launched while a start waits for the watch over an earlier process.

## Main definitions

- `Supervisor.fates`, `Supervisor.writes`: the spawned and reaped processes and the states among
  events
- `Supervisor.Life`: how the state, the processes and their fates fit together
- `Supervisor.Locked`: what holding the lock means
- `Supervisor.Sound`: what holds of a supervisor after some events

## Main results

- `Supervisor.Sound.turn`: every turn keeps a supervisor sound
-/

namespace QueryConsole

namespace Supervisor

/-! ## Events -/

/-- What becomes of processes. -/
inductive Fate
  | spawned (child : Nat)
  | reaped (child : Nat)
  deriving DecidableEq, Repr

/-- What an event says about a process. -/
def Event.fate? : Event → Option Fate
  | .spawned child => some (.spawned child)
  | .reaped child _ => some (.reaped child)
  | _ => none

/-- The state that an event writes. -/
def Event.state? : Event → Option State
  | .state written => some written
  | _ => none

/-- What becomes of processes, in order. -/
def fates (events : List Event) : List Fate :=
  events.filterMap Event.fate?

/-- The states that are written, in order. -/
def writes (events : List Event) : List State :=
  events.filterMap Event.state?

/-- The lives of the first processes, one after the other: each of them is spawned and reaped before
the next one is spawned. -/
def lives (count : Nat) : List Fate :=
  (List.range count).flatMap fun child => [.spawned child, .reaped child]

theorem lives_succ (count : Nat) :
    lives (count + 1) = lives count ++ [.spawned count] ++ [.reaped count] := by
  simp [lives, List.range_succ]

/-- The changes of the state that there are. -/
inductive State.Next : State → State → Prop
  | starts : Next .stopped .starting
  | runs : Next .starting .running
  | fails : Next .starting .stopped
  | stops : Next .running .stopping
  | exits : Next .running .stopped
  | ends : Next .stopping .stopped

/-- From a state by changes through others, the last of which is the state in the end. -/
inductive State.Leads : State → List State → State → Prop
  | refl {a : State} : Leads a [] a
  | cons {a b c : State} {l : List State} (h : Next a b) (hrest : Leads b l c) : Leads a (b :: l) c

theorem State.Leads.append {a b c : State} {l l' : List State} (h : Leads a l b)
    (h' : Leads b l' c) : Leads a (l ++ l') c := by
  induction h with
  | refl => exact h'
  | cons hnext _ ih => exact .cons hnext (ih h')

/-! ## Invariants -/

/-- How the state, the processes that are not reaped and what became of them fit together. -/
inductive Life : State → List Bool → List Fate → Prop
  | stopped {count : Nat} : Life .stopped (List.replicate count false) (lives count)
  | alive {state : State} {count : Nat} (h : state = .running ∨ state = .stopping) :
    Life state (List.replicate count false ++ [true]) (lives count ++ [.spawned count])

/-- Whether a call that waits holds the lock. -/
def Call.holds : Call → Bool
  | .joining _ => true
  | .awaiting _ => true
  | _ => false

/-- Whether a call has started the daemon. -/
def Call.isLaunched : Call → Bool
  | .started (.ok _) => true
  | _ => false

/-- The processes that are spawned and not yet reaped. -/
def unreaped (s : Supervisor) : List Bool :=
  s.children.map Child.isUnreaped

/-- The lock is held by one call at most, and nothing happens to the daemon while a start waits. -/
structure Locked (s : Supervisor) : Prop where
  locked : ∀ c ∈ s.calls, c.holds = true → s.locked = true
  alone : ∀ (i j : Nat) (c d : Call), s.calls[i]? = some c → s.calls[j]? = some d →
    c.holds = true → d.holds = true → i = j
  joining : ∀ stale, .joining stale ∈ s.calls → s.state = .stopped

/-- What holds of a supervisor in which everyone waits, after some events. -/
structure Sound (s : Supervisor) (past : List Event) : Prop where
  settled : s.Settled
  life : Life s.state s.unreaped (fates past)
  lock : s.Locked
  launches : s.calls.countP Call.isLaunched = s.children.length

theorem Sound.start : Sound {} [] where
  settled := ⟨by simp, by simp⟩
  life := @Life.stopped 0
  lock := ⟨by simp, by simp, by simp⟩
  launches := rfl

variable {s t : Supervisor} {past : List Event} {call child : Nat} {c : Call} {spawn : Spawn}

/-! ## Processes -/

namespace Life

variable {state : State} {flags : List Bool} {fates : List Fate}

theorem stop (h : Life .running flags fates) : Life .stopping flags fates := by
  cases h with
  | alive h => exact .alive (.inr rfl)

/-- A process that is spawned while the daemon is stopped is the only one. -/
theorem launch (h : Life .stopped flags fates) :
    Life .running (flags ++ [true]) (fates ++ [.spawned flags.length]) := by
  cases h with
  | stopped =>
    rw [List.length_replicate]
    exact .alive (.inl rfl)
  | alive h => obtain h | h := h <;> cases h

/-- A process that is not yet reaped is the only one, and the daemon is not stopped. -/
theorem reap (h : Life state flags fates) (hchild : flags[child]? = some true) :
    (state = .running ∨ state = .stopping) ∧
      Life .stopped (flags.set child false) (fates ++ [.reaped child]) := by
  cases h with
  | stopped => simp [List.getElem?_replicate] at hchild
  | @alive _ count h =>
    have hcount : child = count := by
      rw [List.getElem?_append, List.length_replicate] at hchild
      by_cases hlt : child < count
      · simp [hlt] at hchild
      · simp [hlt, List.getElem?_cons] at hchild
        omega
    subst hcount
    have hset : (List.replicate child false ++ [true]).set child false =
        List.replicate (child + 1) false := by
      rw [List.replicate_succ', List.set_append]
      simp
    rw [hset, ← lives_succ]
    exact ⟨h, .stopped⟩

end Life

theorem unreaped_modify {f : Child → Child}
    (hf : ∀ c, s.children[child]? = some c → (f c).isUnreaped = c.isUnreaped) :
    (s.children.modify child f).map Child.isUnreaped = s.unreaped := by
  refine List.ext_getElem? fun j => ?_
  rw [unreaped, List.getElem?_map, List.getElem?_map, List.getElem?_modify]
  cases hj : s.children[j]? with
  | none => rfl
  | some c =>
    by_cases hchild : child = j
    · subst hchild
      simp [hf c hj]
    · simp [hchild]

theorem rests_modify (h : s.Settled) {f : Child → Child}
    (hf : ∀ c, s.children[child]? = some c → (f c).watch.rests = true) :
    ∀ c ∈ s.children.modify child f, c.watch.rests = true := by
  intro c hc
  obtain ⟨j, hj⟩ := List.getElem?_of_mem hc
  rw [List.getElem?_modify] at hj
  obtain ⟨d, hd, rfl⟩ := Option.map_eq_some_iff.1 hj
  by_cases hchild : child = j
  · subst hchild
    simpa using hf d hd
  · simpa [hchild] using h.watches d (List.mem_of_getElem? hd)

/-! ## The lock -/

/-- No other call holds the lock. -/
def Alone (s : Supervisor) (call : Nat) : Prop :=
  ∀ (j : Nat) (d : Call), j ≠ call → s.calls[j]? = some d → d.holds = false

namespace Locked

theorem alone_of_unlocked (h : s.Locked) (hlock : s.locked = false) (call : Nat) :
    s.Alone call := by
  intro j d _ hd
  cases hholds : d.holds with
  | false => rfl
  | true =>
    rw [h.locked d (List.mem_of_getElem? hd) hholds] at hlock
    cases hlock

theorem alone_of_holds (h : s.Locked) (hcall : s.calls[call]? = some c) (hc : c.holds = true) :
    s.Alone call := by
  intro j d hj hd
  cases hholds : d.holds with
  | false => rfl
  | true => exact absurd (h.alone j call d c hd hcall hholds hc) hj

/-- A call that is the only one to hold the lock goes on and keeps it, or hands it back. -/
theorem set (h : s.Alone call) (hcalls : t.calls = s.calls.set call c)
    (hlocked : t.locked = c.holds) (hjoining : ∀ stale, c = .joining stale → t.state = .stopped) :
    t.Locked := by
  -- of all calls only the one that goes on can hold the lock now
  have honly : ∀ (j : Nat) (d : Call), t.calls[j]? = some d → d.holds = true →
      j = call ∧ d = c := by
    intro j d hd hholds
    rw [hcalls, List.getElem?_set] at hd
    by_cases hj : call = j
    · subst hj
      by_cases hlt : call < s.calls.length
      · simp only [hlt, if_true, Option.some.injEq] at hd
        exact ⟨rfl, hd.symm⟩
      · simp [hlt] at hd
    · rw [if_neg hj] at hd
      rw [h j d (Ne.symm hj) hd] at hholds
      cases hholds
  refine ⟨?_, ?_, ?_⟩
  · intro d hd hholds
    obtain ⟨j, hj⟩ := List.getElem?_of_mem hd
    obtain ⟨_, rfl⟩ := honly j d hj hholds
    rw [hlocked, hholds]
  · intro i j d e hi hj hd he
    rw [(honly i d hi hd).1, (honly j e hj he).1]
  · intro stale hmem
    obtain ⟨j, hj⟩ := List.getElem?_of_mem hmem
    obtain ⟨_, hc⟩ := honly j _ hj rfl
    exact hjoining stale hc.symm

theorem of_calls_eq (h : s.Locked) (hcalls : t.calls = s.calls) (hlocked : t.locked = s.locked)
    (hstate : t.state = s.state ∨ t.state = .stopped) : t.Locked := by
  refine ⟨?_, ?_, ?_⟩
  · rw [hcalls, hlocked]
    exact h.locked
  · rw [hcalls]
    exact h.alone
  · intro stale hmem
    obtain he | he := hstate
    · rw [he]
      exact h.joining stale (hcalls ▸ hmem)
    · exact he

theorem append (h : s.Locked) (hc : c.holds = false) :
    Locked { s with calls := s.calls ++ [c] } := by
  -- whoever holds the lock is one of the calls that were there
  have hold : ∀ (j : Nat) (d : Call), (s.calls ++ [c])[j]? = some d → d.holds = true →
      s.calls[j]? = some d := by
    intro j d hd hholds
    rw [List.getElem?_append] at hd
    by_cases hj : j < s.calls.length
    · simpa [hj] using hd
    · rw [if_neg hj, List.getElem?_singleton] at hd
      by_cases hzero : j - s.calls.length = 0
      · simp only [hzero, if_true, Option.some.injEq] at hd
        rw [← hd, hc] at hholds
        cases hholds
      · simp [hzero] at hd
  refine ⟨?_, ?_, ?_⟩
  · intro d hd hholds
    obtain ⟨j, hj⟩ := List.getElem?_of_mem hd
    exact h.locked d (List.mem_of_getElem? (hold j d hj hholds)) hholds
  · intro i j d e hi hj hd he
    exact h.alone i j d e (hold i d hi hd) (hold j e hj he) hd he
  · intro stale hmem
    obtain ⟨j, hj⟩ := List.getElem?_of_mem hmem
    exact h.joining stale (List.mem_of_getElem? (hold j _ hj rfl))

end Locked

/-- A start that is ready to launch the daemon has the lock for itself, and the daemon is
stopped. -/
theorem Ready.alone (h : s.Locked) (hcall : s.calls[call]? = some c) (hready : s.Ready c) :
    s.Alone call ∧ s.state = .stopped := by
  cases hready with
  | free hlock hstate hhandle => exact ⟨h.alone_of_unlocked hlock call, hstate⟩
  | joined hresult =>
    exact ⟨h.alone_of_holds hcall rfl, h.joining _ (List.mem_of_getElem? hcall)⟩

theorem Ready.not_launched (h : s.Ready c) : c.isLaunched = false := by
  cases h <;> rfl

/-! ## One turn -/

theorem fates_append (a b : List Event) : fates (a ++ b) = fates a ++ fates b :=
  List.filterMap_append

/-- What is left to show when a call that has the lock for itself goes on. -/
theorem Sound.set (h : Sound s past) {d : Call} {events : List Event}
    (hcall : s.calls[call]? = some d) (hd : d.isLaunched = false) (halone : s.Alone call)
    (hcalls : t.calls = s.calls.set call c) (hc : c.rests = true) (hlocked : t.locked = c.holds)
    (hjoining : ∀ stale, c = .joining stale → t.state = .stopped)
    (hwatches : ∀ d ∈ t.children, d.watch.rests = true)
    (hlife : Life t.state t.unreaped (fates (past ++ events)))
    (hcount : t.children.length = s.children.length + if c.isLaunched then 1 else 0) :
    Sound t (past ++ events) where
  settled := by
    refine ⟨fun e he => ?_, hwatches⟩
    rw [hcalls] at he
    obtain he | rfl := List.mem_or_eq_of_mem_set he
    · exact h.settled.calls e he
    · exact hc
  life := hlife
  lock := Locked.set halone hcalls hlocked hjoining
  launches := by
    obtain ⟨hlt, hget⟩ := List.getElem?_eq_some_iff.1 hcall
    rw [hcalls, List.countP_set hlt, hget, hd, h.launches, hcount]
    simp

/-- A call that goes on and leaves the daemon alone. -/
theorem Sound.put (h : Sound s past) {d : Call} (hcall : s.calls[call]? = some d)
    (hd : d.isLaunched = false) (halone : s.Alone call) (hcalls : t.calls = s.calls.set call c)
    (hc : c.rests = true) (hlocked : t.locked = c.holds)
    (hjoining : ∀ stale, c = .joining stale → s.state = .stopped) (hstate : t.state = s.state)
    (hchildren : t.children = s.children) (hnot : c.isLaunched = false) :
    Sound t (past ++ []) := by
  refine h.set hcall hd halone hcalls hc hlocked ?_ ?_ ?_ ?_
  · rw [hstate]
    exact hjoining
  · rw [hchildren]
    exact h.settled.watches
  · rw [hstate, unreaped, hchildren, List.append_nil]
    exact h.life
  · rw [hchildren, hnot]
    rfl

theorem Sound.called (h : Sound s past) {result : Supervisor × List Event}
    (hturn : Called s call spawn result) : Sound result.1 (past ++ result.2) := by
  cases hturn with
  | waits hblocked =>
    rw [List.append_nil]
    exact h
  | refused hcall hlock hstate =>
    exact h.put hcall rfl (h.lock.alone_of_unlocked hlock call) rfl rfl rfl (by simp) rfl rfl rfl
  | joins hcall hlock hstate hhandle =>
    exact h.put hcall rfl (h.lock.alone_of_unlocked hlock call) rfl rfl rfl (fun _ _ => hstate)
      rfl rfl rfl
  | launches hcall hready =>
    obtain ⟨halone, hstopped⟩ := hready.alone h.lock hcall
    have hlife := (hstopped ▸ h.life).launch
    refine h.set hcall hready.not_launched halone rfl rfl rfl (by simp) ?_ ?_ ?_
    · intro d hd
      obtain hd | hd := List.mem_append.1 hd
      · exact h.settled.watches d hd
      · rw [List.mem_singleton.1 hd]
        rfl
    · have hfates : fates [.state .starting, .spawned s.children.length, .state .running] =
          [.spawned s.unreaped.length] := by
        rw [unreaped, List.length_map]
        rfl
      have hunreaped : (s.launched call).unreaped = s.unreaped ++ [true] := by
        simp [unreaped, launched, Child.isUnreaped]
      rw [fates_append, hfates, hunreaped]
      exact hlife
    · simp [launched, Call.isLaunched]
  | fails hcall hready =>
    obtain ⟨halone, hstopped⟩ := hready.alone h.lock hcall
    refine h.set hcall hready.not_launched halone rfl rfl rfl (by simp) h.settled.watches ?_ rfl
    have hfates : fates [.state .starting, .state .stopped] = [] := rfl
    have hlife : Life .stopped s.unreaped (fates past) := hstopped ▸ h.life
    rw [fates_append, hfates, List.append_nil]
    exact hlife
  | leaves hcall hlock hhandle =>
    exact h.put hcall rfl (h.lock.alone_of_unlocked hlock call) rfl rfl rfl (by simp) rfl rfl rfl
  | @tells _ child hcall hlock hhandle =>
    refine h.set hcall rfl (h.lock.alone_of_unlocked hlock call) rfl rfl rfl (by simp) ?_ ?_ ?_
    · exact rests_modify h.settled fun d hd => h.settled.watches d (List.mem_of_getElem? hd)
    · have hunreaped : (s.tell call child).unreaped = s.unreaped := unreaped_modify fun d _ => rfl
      rw [hunreaped]
      by_cases hrunning : s.state = .running
      · have hfates : fates [.state .stopping] = [] := rfl
        simp only [tell, hrunning, if_true, fates_append, hfates, List.append_nil]
        exact (hrunning ▸ h.life).stop
      · simp only [tell, hrunning, if_false, List.append_nil]
        exact h.life
    · simp [tell, Call.isLaunched]
  | collects hcall hresult =>
    exact h.put hcall rfl (h.lock.alone_of_holds hcall rfl) rfl rfl rfl (by simp) rfl rfl rfl

/-- A process changes, and is reaped in the end exactly if it was before. -/
theorem Sound.change (h : Sound s past) {f : Child → Child} {e : Option Event}
    (hunreaped : ∀ c, s.children[child]? = some c → (f c).isUnreaped = c.isUnreaped)
    (hrests : ∀ c, s.children[child]? = some c → (f c).watch.rests = true)
    (hquiet : ∀ d ∈ e, d.fate? = none) :
    Sound (s.change child f) (past ++ e.toList) where
  settled := ⟨h.settled.calls, rests_modify h.settled hrests⟩
  life := by
    have hflags : (s.change child f).unreaped = s.unreaped := unreaped_modify hunreaped
    have hfates : fates (past ++ e.toList) = fates past := by
      cases e with
      | none => rw [Option.toList_none, List.append_nil]
      | some d => simp [fates, List.filterMap_append, hquiet d rfl]
    rw [hflags, hfates]
    exact h.life
  lock := h.lock.of_calls_eq rfl rfl (.inl rfl)
  launches := by simpa [Supervisor.change] using h.launches

theorem Sound.watched (h : Sound s past) {result : Supervisor × List Event}
    (hturn : Watched s child result) : Sound result.1 (past ++ result.2) := by
  cases hturn with
  | waits =>
    rw [List.append_nil]
    exact h
  | asks hchild hwatch htold =>
    refine h.change (e := some _) (fun c hc => ?_) (fun _ _ => rfl) (by simp [Event.fate?])
    cases hchild.symm.trans hc
    simp [Child.isUnreaped, hwatch]
  | @reaps c status hchild hunreaped hended =>
    have hflag : s.unreaped[child]? = some true := by
      simp [unreaped, hchild, hunreaped]
    have hlife := (h.life.reap hflag).2
    have hflags : (s.reaped child status).unreaped = s.unreaped.set child false := by
      simp [unreaped, reaped, Supervisor.change, List.modify_eq_set_getElem?, hchild, List.map_set,
        Child.isUnreaped]
    have hfates : fates [.reaped child status, .state .stopped] = [.reaped child] := rfl
    refine ⟨⟨h.settled.calls, rests_modify h.settled fun _ _ => rfl⟩, ?_,
      h.lock.of_calls_eq rfl rfl (.inr rfl), by simpa [reaped, Supervisor.change] using h.launches⟩
    rw [hflags, fates_append, hfates]
    exact hlife

theorem Sound.expired (h : Sound s past) {result : Supervisor × List Event}
    (hturn : Expired s child result) : Sound result.1 (past ++ result.2) := by
  cases hturn with
  | waits =>
    rw [List.append_nil]
    exact h
  | kills hchild hwatch =>
    refine h.change (e := some _) (fun c hc => ?_) (fun _ _ => rfl) (by simp [Event.fate?])
    cases hchild.symm.trans hc
    simp [Child.isUnreaped, hwatch]

/-- A call that comes in. -/
theorem Sound.append (h : Sound s past) (hrests : c.rests = true) (hholds : c.holds = false)
    (hnot : c.isLaunched = false) : Sound { s with calls := s.calls ++ [c] } (past ++ []) where
  settled := by
    refine ⟨fun d hd => ?_, h.settled.watches⟩
    obtain hd | hd := List.mem_append.1 hd
    · exact h.settled.calls d hd
    · rw [List.mem_singleton.1 hd]
      exact hrests
  life := by
    rw [List.append_nil]
    exact h.life
  lock := h.lock.append hholds
  launches := by simpa [List.countP_append, hnot] using h.launches

/-- Every turn keeps a supervisor sound. -/
theorem Sound.turn (h : Sound s past) (m : Move) :
    Sound (s.turn m).1 (past ++ (s.turn m).2) := by
  cases m with
  | start =>
    rw [turn_of_rests rfl]
    exact h.append rfl rfl rfl
  | stop =>
    rw [turn_of_rests rfl]
    exact h.append rfl rfl rfl
  | call call spawn => exact h.called (Supervisor.called h.settled call spawn)
  | exit child status =>
    rw [turn_of_rests rfl]
    refine h.change (e := none) (fun _ _ => rfl) (fun c hc => ?_) (by simp)
    exact h.settled.watches c (List.mem_of_getElem? hc)
  | watch child wordFirst => exact h.watched (Supervisor.watched h.settled child wordFirst)
  | expire child => exact h.expired (Supervisor.expired s child)

end Supervisor

end QueryConsole
