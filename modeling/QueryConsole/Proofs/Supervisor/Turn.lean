import QueryConsole.Supervisor.Run

/-!
# The turns of supervision

Between two waits a call or a watch takes all its steps at once. What such a turn can do to a
supervisor in which everyone waits is said here once, with what must hold for it.

## Main definitions

- `Supervisor.Settled`: everyone waits or is done
- `Supervisor.Called`, `Supervisor.Watched`, `Supervisor.Expired`: the turns of a call, of a watch,
  and when the time of a process is over

## Main results

- `Supervisor.called`, `Supervisor.watched`, `Supervisor.expired`: there are no other turns
-/

namespace QueryConsole

namespace Supervisor

/-- Everyone waits or is done. -/
structure Settled (s : Supervisor) : Prop where
  calls : ∀ c ∈ s.calls, c.rests = true
  watches : ∀ c ∈ s.children, c.watch.rests = true

/-- What holds a call up that waits, or that it is over. -/
def Blocked (s : Supervisor) : Call → Prop
  | .starting | .stopping => s.locked = true
  | .joining child | .awaiting child => s.result? child = none
  | c => c.rests = true

/-- A start that has the lock, or gets it now, and finds the daemon stopped and its watch done. -/
inductive Ready (s : Supervisor) : Call → Prop
  | free (hlock : s.locked = false) (hstate : s.state = .stopped) (hhandle : s.handle = none) :
    Ready s .starting
  | joined {stale : Nat} {status : ExitStatus} (h : s.result? stale = some status) :
    Ready s (.joining stale)

/-- The daemon is launched, and the watch over it waits. -/
def launched (s : Supervisor) (call : Nat) : Supervisor where
  state := .running
  locked := false
  handle := some s.children.length
  children := s.children ++ [{ watch := .waiting }]
  calls := s.calls.set call (.started (.ok ()))

/-- The daemon could not be spawned. -/
def unlaunched (s : Supervisor) (call : Nat) (fault : SpawnFault) : Supervisor :=
  { s.leave call (.started (.error (.spawn fault))) with state := .stopped }

/-- A stop has taken the handle of a process and given word to its watch. -/
def tell (s : Supervisor) (call child : Nat) : Supervisor where
  state := if s.state = .running then .stopping else s.state
  locked := true
  handle := none
  children := s.children.modify child ({ · with told := true })
  calls := s.calls.set call (.awaiting child)

/-- A process has been reaped, and the state is written. -/
def reaped (s : Supervisor) (child : Nat) (status : ExitStatus) : Supervisor :=
  { s.change child ({ · with watch := .finished status }) with state := .stopped }

/-- The turns of a call. -/
inductive Called (s : Supervisor) (call : Nat) : Spawn → Supervisor × List Event → Prop
  /-- it has to wait on, or is over -/
  | waits {spawn : Spawn} (h : ∀ c, s.calls[call]? = some c → s.Blocked c) :
    Called s call spawn (s, [])
  | refused {spawn : Spawn} (hcall : s.calls[call]? = some .starting) (hlock : s.locked = false)
    (hstate : s.state ≠ .stopped) :
    Called s call spawn (s.leave call (.started (.error (.active s.state))), [])
  /-- it waits for the watch over an earlier process -/
  | joins {spawn : Spawn} {stale : Nat} (hcall : s.calls[call]? = some .starting)
    (hlock : s.locked = false) (hstate : s.state = .stopped) (hhandle : s.handle = some stale) :
    Called s call spawn ({ s.put call (.joining stale) with locked := true, handle := none }, [])
  | launches {c : Call} (hcall : s.calls[call]? = some c) (hready : s.Ready c) :
    Called s call (.ok ())
      (s.launched call, [.state .starting, .spawned s.children.length, .state .running])
  | fails {c : Call} {fault : SpawnFault} (hcall : s.calls[call]? = some c) (hready : s.Ready c) :
    Called s call (.error fault) (s.unlaunched call fault, [.state .starting, .state .stopped])
  /-- there is nothing to stop -/
  | leaves {spawn : Spawn} (hcall : s.calls[call]? = some .stopping) (hlock : s.locked = false)
    (hhandle : s.handle = none) : Called s call spawn (s.leave call (.stopped none), [])
  /-- it gives word to the watch over the process and waits for it -/
  | tells {spawn : Spawn} {child : Nat} (hcall : s.calls[call]? = some .stopping)
    (hlock : s.locked = false) (hhandle : s.handle = some child) :
    Called s call spawn
      (s.tell call child, if s.state = .running then [.state .stopping] else [])
  | collects {spawn : Spawn} {child : Nat} {status : ExitStatus}
    (hcall : s.calls[call]? = some (.awaiting child)) (hresult : s.result? child = some status) :
    Called s call spawn (s.leave call (.stopped (some status)), [])

/-- The turns of the watch over a process. -/
inductive Watched (s : Supervisor) (child : Nat) : Supervisor × List Event → Prop
  | waits : Watched s child (s, [])
  | asks {c : Child} (hchild : s.children[child]? = some c) (hwatch : c.watch = .waiting)
    (htold : c.told = true) :
    Watched s child (s.change child ({ · with watch := .grace }), [.signalled child terminate])
  | reaps {c : Child} {status : ExitStatus} (hchild : s.children[child]? = some c)
    (hunreaped : c.isUnreaped = true) (hended : c.ended = some status) :
    Watched s child (s.reaped child status, [.reaped child status, .state .stopped])

/-- What can happen when the time of a process is over. -/
inductive Expired (s : Supervisor) (child : Nat) : Supervisor × List Event → Prop
  | waits : Expired s child (s, [])
  | kills {c : Child} (hchild : s.children[child]? = some c) (hwatch : c.watch = .grace) :
    Expired s child (s.change child ({ · with watch := .killed }), [.signalled child kill])

variable {s : Supervisor} {m : Move} {call child fuel : Nat} {spawn : Spawn}

/-! ## Settling -/

theorem settle_of_rests (h : s.rests m = true) : settle m fuel s = (s, []) := by
  cases fuel with
  | zero => rfl
  | succ fuel => simp only [settle, h, if_true]

theorem turn_of_rests (h : (s.step m).1.rests m = true) : s.turn m = s.step m := by
  simp [turn, settle_of_rests h]

theorem modify_length_append (l : List Child) (c : Child) (f : Child → Child) :
    (l ++ [c]).modify l.length f = l ++ [f c] := by
  induction l with
  | nil => rfl
  | cons _ l ih => simpa using ih

/-- A start that is about to launch the daemon does so. -/
theorem settle_marking_ok (h : s.calls[call]? = some .marking) :
    settle (.call call (.ok ())) (fuel + 4) s =
      (s.launched call, [.state .starting, .spawned s.children.length, .state .running]) := by
  obtain ⟨hlt, hget⟩ := List.getElem?_eq_some_iff.1 h
  simp [settle, rests, step, callStep, put, leave, write, change, hlt, hget, Call.rests, launched,
    modify_length_append, settle_of_rests]

theorem settle_marking_error {fault : SpawnFault} (h : s.calls[call]? = some .marking) :
    settle (.call call (.error fault)) (fuel + 4) s =
      (s.unlaunched call fault, [.state .starting, .state .stopped]) := by
  obtain ⟨hlt, hget⟩ := List.getElem?_eq_some_iff.1 h
  simp [settle, rests, step, callStep, put, leave, write, hlt, hget, Call.rests, unlaunched]

/-- What is left of a turn when a start is about to launch the daemon. -/
theorem settle_marking {s₁ : Supervisor} {c : Call} (hcall : s.calls[call]? = some c)
    (hready : s.Ready c) (hs : s₁ = { s.put call .marking with locked := s₁.locked }) :
    Called s call spawn (settle (.call call spawn) (fuel + 4) s₁) := by
  obtain ⟨hlt, _⟩ := List.getElem?_eq_some_iff.1 hcall
  have hmarking : s₁.calls[call]? = some .marking := by
    rw [hs]
    simp [put, hlt]
  cases spawn with
  | ok u =>
    have hlaunched : s₁.launched call = s.launched call := by
      rw [hs]
      simp [launched, put]
    have hchildren : s₁.children = s.children := by rw [hs]; rfl
    rw [settle_marking_ok hmarking, hlaunched, hchildren]
    exact .launches hcall hready
  | error fault =>
    have hunlaunched : s₁.unlaunched call fault = s.unlaunched call fault := by
      rw [hs]
      simp [unlaunched, leave, put]
    rw [settle_marking_error hmarking, hunlaunched]
    exact .fails hcall hready

/-! ## Calls -/

variable {c : Call}

theorem called_of_blocked (hcall : s.calls[call]? = some c) (hrests : c.rests = true)
    (hblocked : s.Blocked c) (hstep : s.step (.call call spawn) = (s, [])) :
    Called s call spawn (s.turn (.call call spawn)) := by
  rw [turn_of_rests (by simp [hstep, rests, hcall, hrests]), hstep]
  refine .waits fun d hd => ?_
  cases hcall.symm.trans hd
  exact hblocked

theorem called_of_starting (hcall : s.calls[call]? = some .starting) :
    Called s call spawn (s.turn (.call call spawn)) := by
  obtain ⟨hlt, hget⟩ := List.getElem?_eq_some_iff.1 hcall
  by_cases hlock : s.locked = true
  · exact called_of_blocked hcall rfl hlock (by simp [step, callStep, hcall, hlock])
  have hfree : s.locked = false := by simpa using hlock
  by_cases hstate : s.state = .stopped
  · cases hhandle : s.handle with
    | none =>
      -- the lock, the state and the handle take three of the steps, the launch takes the others
      have hturn : s.turn (.call call spawn) = settle (.call call spawn) (1 + 4)
          { s.put call .marking with locked := true } := by
        simp [turn, longestTurn, settle, rests, step, callStep, put, hlt, hget, hlock, hstate,
          hhandle, Call.rests]
      rw [hturn]
      exact settle_marking hcall (.free hfree hstate hhandle) rfl
    | some stale =>
      have hturn : s.turn (.call call spawn) =
          ({ s.put call (.joining stale) with locked := true, handle := none }, []) := by
        simp [turn, longestTurn, settle, rests, step, callStep, put, hlt, hget, hlock, hstate,
          hhandle, Call.rests]
      rw [hturn]
      exact .joins hcall hfree hstate hhandle
  · have hturn : s.turn (.call call spawn) =
        (s.leave call (.started (.error (.active s.state))), []) := by
      simp [turn, longestTurn, settle, rests, step, callStep, put, leave, hlt, hget, hlock,
        hstate, Call.rests]
    rw [hturn]
    exact .refused hcall hfree hstate

theorem called_of_joining {stale : Nat} (hcall : s.calls[call]? = some (.joining stale)) :
    Called s call spawn (s.turn (.call call spawn)) := by
  obtain ⟨hlt, hget⟩ := List.getElem?_eq_some_iff.1 hcall
  cases hresult : s.result? stale with
  | none => exact called_of_blocked hcall rfl hresult (by simp [step, callStep, hcall, hresult])
  | some status =>
    have hturn : s.turn (.call call spawn) =
        settle (.call call spawn) (3 + 4) (s.put call .marking) := by
      simp [turn, longestTurn, step, callStep, hget, hlt, hresult]
    rw [hturn]
    exact settle_marking hcall (.joined hresult) rfl

theorem called_of_stopping (hcall : s.calls[call]? = some .stopping) :
    Called s call spawn (s.turn (.call call spawn)) := by
  obtain ⟨hlt, hget⟩ := List.getElem?_eq_some_iff.1 hcall
  by_cases hlock : s.locked = true
  · exact called_of_blocked hcall rfl hlock (by simp [step, callStep, hcall, hlock])
  have hfree : s.locked = false := by simpa using hlock
  cases hhandle : s.handle with
  | none =>
    have hturn : s.turn (.call call spawn) = (s.leave call (.stopped none), []) := by
      simp [turn, longestTurn, settle, rests, step, callStep, put, leave, hlt, hget, hlock,
        hhandle, Call.rests]
    rw [hturn]
    exact .leaves hcall hfree hhandle
  | some child =>
    have hturn : s.turn (.call call spawn) =
        (s.tell call child, if s.state = .running then [.state .stopping] else []) := by
      by_cases hrunning : s.state = .running <;>
        simp [turn, longestTurn, settle, rests, step, callStep, put, write, change, tell, hlt,
          hget, hlock, hhandle, hrunning, Call.rests]
    rw [hturn]
    exact .tells hcall hfree hhandle

theorem called_of_awaiting (hcall : s.calls[call]? = some (.awaiting child)) :
    Called s call spawn (s.turn (.call call spawn)) := by
  obtain ⟨hlt, hget⟩ := List.getElem?_eq_some_iff.1 hcall
  cases hresult : s.result? child with
  | none => exact called_of_blocked hcall rfl hresult (by simp [step, callStep, hcall, hresult])
  | some status =>
    have hturn : s.turn (.call call spawn) = (s.leave call (.stopped (some status)), []) := by
      simp [turn, longestTurn, settle, rests, step, callStep, put, leave, hlt, hget, hresult,
        Call.rests]
    rw [hturn]
    exact .collects hcall hresult

theorem called (h : s.Settled) (call : Nat) (spawn : Spawn) :
    Called s call spawn (s.turn (.call call spawn)) := by
  cases hcall : s.calls[call]? with
  | none =>
    have hstep : s.step (.call call spawn) = (s, []) := by simp [step, callStep, hcall]
    rw [turn_of_rests (by simp [hstep, rests, hcall]), hstep]
    exact .waits fun c hc => by simp [hcall] at hc
  | some c =>
    have hrests : c.rests = true := h.calls c (List.mem_of_getElem? hcall)
    cases c with
    | starting => exact called_of_starting hcall
    | joining stale => exact called_of_joining hcall
    | started result =>
      exact called_of_blocked hcall rfl rfl (by simp [step, callStep, hcall])
    | stopping => exact called_of_stopping hcall
    | awaiting child => exact called_of_awaiting hcall
    | stopped result =>
      exact called_of_blocked hcall rfl rfl (by simp [step, callStep, hcall])
    | _ => cases hrests

/-! ## Watches -/

/-- A watch that reaps its process also writes the state. -/
theorem turn_reap {c : Child} {status : ExitStatus} {wordFirst : Bool}
    (hchild : s.children[child]? = some c)
    (hstep : s.step (.watch child wordFirst) = s.reap child status) :
    s.turn (.watch child wordFirst) =
      (s.reaped child status, [.reaped child status, .state .stopped]) := by
  obtain ⟨hlt, hget⟩ := List.getElem?_eq_some_iff.1 hchild
  simp only [turn, hstep]
  simp [longestTurn, settle, rests, reap, step, watchStep, change, write, reaped, hlt, hget,
    Watch.rests, List.modify_modify_eq, Function.comp_def]

theorem watched (h : s.Settled) (child : Nat) (wordFirst : Bool) :
    Watched s child (s.turn (.watch child wordFirst)) := by
  cases hchild : s.children[child]? with
  | none =>
    have hstep : s.step (.watch child wordFirst) = (s, []) := by simp [step, watchStep, hchild]
    rw [turn_of_rests (by simp [hstep, rests, hchild]), hstep]
    exact .waits
  | some c =>
    obtain ⟨hlt, hget⟩ := List.getElem?_eq_some_iff.1 hchild
    have hrests : c.watch.rests = true := h.watches c (List.mem_of_getElem? hchild)
    have hwaits (hstep : s.step (.watch child wordFirst) = (s, [])) :
        Watched s child (s.turn (.watch child wordFirst)) := by
      rw [turn_of_rests (by simp [hstep, rests, hchild, hrests]), hstep]
      exact .waits
    have hreaps (status : ExitStatus) (hunreaped : c.isUnreaped = true)
        (hended : c.ended = some status)
        (hstep : s.step (.watch child wordFirst) = s.reap child status) :
        Watched s child (s.turn (.watch child wordFirst)) := by
      rw [turn_reap hchild hstep]
      exact .reaps hchild hunreaped hended
    have hasks (hwatch : c.watch = .waiting) (htold : c.told = true)
        (hstep : s.step (.watch child wordFirst) =
          (s.change child ({ · with watch := .grace }), [.signalled child terminate])) :
        Watched s child (s.turn (.watch child wordFirst)) := by
      rw [turn_of_rests (by simp [hstep, rests, change, hlt, Watch.rests]), hstep]
      exact .asks hchild hwatch htold
    obtain ⟨ended, told, watch⟩ := c
    cases watch with
    | idle => exact hwaits (by simp [step, watchStep, hchild])
    | waiting =>
      cases ended with
      | none =>
        cases told with
        | false => exact hwaits (by simp [step, watchStep, hchild])
        | true => exact hasks rfl rfl (by simp [step, watchStep, hchild])
      | some status =>
        -- the end of the process and the word to stop it may both be there
        by_cases hfirst : (told && wordFirst) = true
        · obtain ⟨rfl, rfl⟩ := Bool.and_eq_true_iff.1 hfirst
          exact hasks rfl rfl (by simp [step, watchStep, hchild])
        · exact hreaps status rfl rfl (by simp only [step, watchStep, hchild, if_neg hfirst])
    | grace =>
      cases ended with
      | none => exact hwaits (by simp [step, watchStep, hchild])
      | some status => exact hreaps status rfl rfl (by simp [step, watchStep, hchild])
    | killed =>
      cases ended with
      | none => exact hwaits (by simp [step, watchStep, hchild])
      | some status => exact hreaps status rfl rfl (by simp [step, watchStep, hchild])
    | reaped status => cases hrests
    | finished status => exact hwaits (by simp [step, watchStep, hchild])

theorem expired (s : Supervisor) (child : Nat) : Expired s child (s.turn (.expire child)) := by
  rw [turn_of_rests rfl, step, expire]
  split
  · rename_i hchild
    exact .kills hchild rfl
  · exact .waits

end Supervisor

end QueryConsole
