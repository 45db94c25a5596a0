import Mathlib.Data.List.Induction
import QueryConsole.Proofs.Supervisor.Interleaving
import QueryConsole.Server.Run

/-!
# The moves of the server

What a move can do to a server is said here once. The supervisor takes a single step in a move, or
none, and a process is not killed before it was asked to end and has had its time.

## Main definitions

- `Server.Went`: what a move did
- `Server.after`, `Server.record`: a server after some moves, and what could be seen of them
- `Server.Move.Lets`: the step aside from calls that a move lets the supervisor take

## Main results

- `Server.went`: there is nothing else that a move does
- `Server.asked_after`: a process that is noted to have been asked to end was asked at that time
- `Server.killed_step`: a process is killed only when it was asked to end and has had its time
-/

namespace QueryConsole

open Http (Request Answer Router)

namespace Server

variable {setup : Setup} {earlier : List Supervisor.Move} {s : Server} {m : Move} {child time : Nat}

/-! ## One move -/

/-- The step aside from calls that a move lets the supervisor take. -/
inductive Move.Lets (setup : Setup) (s : Server) : Move → Supervisor.Aside → Prop
  | exit {child : Nat} {status : Supervisor.ExitStatus} :
    Lets setup s (.exit child status) (.exit child status)
  | watch {child : Nat} {wordFirst : Bool} :
    Lets setup s (.watch child wordFirst) (.watch child wordFirst)
  | expire {child : Nat} (hdue : s.isDue setup child = true) :
    Lets setup s (.expire child) (.expire child)

/-- What a move did. -/
inductive Went (setup : Setup) (s : Server) : Move → Server × List Event → Prop
  | nothing {m : Move} : Went setup s m (s, [])
  | stops {call : Nat} (hphase : s.phase = .stopping call) :
    Went setup s .stop (s.take (.call call (.ok ())))
  | lets {m : Move} {a : Supervisor.Aside} (hlets : m.Lets setup s a) :
    Went setup s m (s.take a.move)
  | passes {time : Nat} : Went setup s (.pass time) ({ s with clock := s.clock + time }, [])
  | accepts {r : Request} (hlistening : s.phase.isListening = true) :
    Went setup s (.request r)
      ({ s with arrived := s.arrived + 1, underWay := s.underWay ++ [(s.arrived, r)] },
        [.accepted s.arrived])
  | refuses {r : Request} (hclosed : s.phase.isListening = false) :
    Went setup s (.request r) ({ s with arrived := s.arrived + 1 }, [.refused s.arrived])
  | answers {number : Nat} {r : Request} (hrequest : s.underWay.lookup number = some r) :
    Went setup s (.answer number)
      ({ s with
          history := (setup.router.handle s.supervisor.state s.history r).1
          underWay := s.underWay.filter (·.1 != number) },
        [.answered number (setup.router.handle s.supervisor.state s.history r).2])
  | signals (hphase : s.phase = .serving) :
    Went setup s .signal ({ s with phase := .stopping s.supervisor.calls.length }.take .stop)
  | closes {call : Nat} {result : Option Supervisor.ExitStatus} (hphase : s.phase = .stopping call)
    (hcall : s.supervisor.calls[call]? = some (.stopped result)) :
    Went setup s .close ({ s with phase := .draining result }, [])
  | finishes {result : Option Supervisor.ExitStatus} (hphase : s.phase = .draining result)
    (hempty : s.underWay = []) : Went setup s .finish ({ s with phase := .ended result }, [])

theorem stopped?_eq_some_iff {call : Nat} {result : Option Supervisor.ExitStatus} :
    s.stopped? call = some result ↔ s.supervisor.calls[call]? = some (.stopped result) := by
  unfold stopped?
  cases s.supervisor.calls[call]? with
  | none => simp
  | some c => cases c <;> simp

/-- There is nothing else that a move does. -/
theorem went (setup : Setup) (s : Server) (m : Move) : Went setup s m (s.step setup m) := by
  cases m with
  | stop =>
    cases hphase : s.phase with
    | stopping call =>
      simp only [step, hphase]
      exact .stops hphase
    | _ =>
      simp only [step, hphase]
      exact .nothing
  | exit child status => exact .lets .exit
  | watch child wordFirst => exact .lets .watch
  | expire child =>
    by_cases hdue : s.isDue setup child = true
    · rw [step, if_pos hdue]
      exact .lets (.expire hdue)
    · rw [step, if_neg hdue]
      exact .nothing
  | pass time => exact .passes
  | request r =>
    by_cases hlistening : s.phase.isListening = true
    · simp only [step, if_pos hlistening]
      exact .accepts hlistening
    · simp only [step, if_neg hlistening]
      exact .refuses (by simpa using hlistening)
  | answer number =>
    cases hrequest : s.underWay.lookup number with
    | none =>
      simp only [step, hrequest]
      exact .nothing
    | some r =>
      simp only [step, hrequest]
      exact .answers hrequest
  | signal =>
    by_cases hphase : s.phase = .serving
    · rw [step, if_pos hphase]
      exact .signals hphase
    · rw [step, if_neg hphase]
      exact .nothing
  | close =>
    cases hphase : s.phase with
    | stopping call =>
      cases hcall : s.stopped? call with
      | none =>
        simp only [step, hphase, hcall]
        exact .nothing
      | some result =>
        simp only [step, hphase, hcall]
        exact .closes hphase (stopped?_eq_some_iff.1 hcall)
    | _ =>
      simp only [step, hphase]
      exact .nothing
  | finish =>
    cases hphase : s.phase with
    | draining result =>
      cases hempty : s.underWay with
      | nil =>
        have hstep : s.step setup .finish = ({ s with phase := .ended result }, []) := by
          simp only [step, hphase, hempty, List.isEmpty_nil, if_true]
        rw [hstep]
        exact .finishes hphase hempty
      | cons first rest =>
        simp only [step, hphase, hempty, List.isEmpty_cons, Bool.false_eq_true, if_false]
        exact .nothing
    | _ =>
      simp only [step, hphase]
      exact .nothing

/-! ## Runs -/

/-- A server after some moves. The supervisor has taken some steps before. -/
def after (setup : Setup) (earlier : List Supervisor.Move) (moves : List Move) : Server :=
  (exec setup { supervisor := .reached earlier } moves).1

/-- What could be seen of a server during some moves. -/
def record (setup : Setup) (earlier : List Supervisor.Move) (moves : List Move) : List Event :=
  (exec setup { supervisor := .reached earlier } moves).2

theorem exec_append (s : Server) (moves later : List Move) :
    s.exec setup (moves ++ later) = (((s.exec setup moves).1.exec setup later).1,
      (s.exec setup moves).2 ++ ((s.exec setup moves).1.exec setup later).2) := by
  induction moves generalizing s with
  | nil => simp [exec]
  | cons first moves ih => simp [exec, ih, List.append_assoc]

theorem after_append (setup : Setup) (earlier : List Supervisor.Move) (moves later : List Move) :
    after setup earlier (moves ++ later) = ((after setup earlier moves).exec setup later).1 := by
  rw [after, exec_append]
  rfl

theorem after_concat (setup : Setup) (earlier : List Supervisor.Move) (moves : List Move)
    (m : Move) :
    after setup earlier (moves ++ [m]) = ((after setup earlier moves).step setup m).1 :=
  after_append ..

theorem record_concat (setup : Setup) (earlier : List Supervisor.Move) (moves : List Move)
    (m : Move) :
    record setup earlier (moves ++ [m]) =
      record setup earlier moves ++ ((after setup earlier moves).step setup m).2 := by
  rw [record, exec_append]
  simp [exec, after, record]

/-! ## Time -/

theorem mem_askedAt {events : List Supervisor.Event} {clock : Nat}
    (h : (child, time) ∈ events.filterMap (askedAt clock)) :
    .daemon time (.signalled child Supervisor.terminate) ∈ events.map (Event.daemon clock) := by
  obtain ⟨event, hevent, hasked⟩ := List.mem_filterMap.1 h
  refine List.mem_map.2 ⟨event, hevent, ?_⟩
  cases event with
  | signalled other signal =>
    rw [askedAt] at hasked
    split at hasked
    · next hsignal =>
      cases hasked
      rw [hsignal]
    · cases hasked
  | _ => cases hasked

/-- What a move notes of processes that were asked to end can be seen of it. -/
theorem asked_step (h : (child, time) ∈ (s.step setup m).1.asked) : (child, time) ∈ s.asked ∨
    .daemon time (.signalled child Supervisor.terminate) ∈ (s.step setup m).2 := by
  have hwent := went setup s m
  generalize s.step setup m = result at hwent h
  cases hwent with
  | stops | lets | signals => exact (List.mem_append.1 h).imp_right mem_askedAt
  | _ => exact .inl h

/-- A process that is noted to have been asked to end was asked at that time. -/
theorem asked_after {moves : List Move} (h : (child, time) ∈ (after setup earlier moves).asked) :
    .daemon time (.signalled child Supervisor.terminate) ∈ record setup earlier moves := by
  induction moves using List.reverseRecOn with
  | nil => cases h
  | append_singleton moves m ih =>
    rw [after_concat] at h
    rw [record_concat, List.mem_append]
    exact (asked_step h).imp_left ih

end Server

/-! ## Killing -/

namespace Supervisor

variable {s : Supervisor} {child : Nat} {m : Move}

/-- Calls send no signals. -/
theorem not_signalled_callStep (s : Supervisor) (call : Nat) (spawn : Spawn) (signal : Nat) :
    .signalled child signal ∉ (s.callStep call spawn).2 := by
  rw [callStep.eq_def]
  -- some steps depend on what is found, the others do not
  split <;> first | (split <;> simp) | simp [write]

/-- Only a process that has had its time is killed. -/
theorem expire_of_kill (h : .signalled child kill ∈ (s.step m).2) : m = .expire child := by
  cases m with
  | start => cases h
  | stop => cases h
  | call call spawn => exact absurd h (not_signalled_callStep s call spawn kill)
  | exit other status => cases h
  | watch other wordFirst =>
    simp only [step, watchStep] at h
    split at h
    · next ended told hc =>
      cases ended with
      | none => cases told <;> simp [terminate, kill] at h
      | some status =>
        dsimp only at h
        split at h <;> simp [terminate, kill, reap] at h
    all_goals simp [reap, write] at h
  | expire other =>
    simp only [step, expire] at h
    split at h
    · simp only [List.mem_singleton, Event.signalled.injEq] at h
      rw [h.1]
    · cases h

end Supervisor

namespace Server

variable {setup : Setup} {earlier : List Supervisor.Move} {s : Server} {m : Move} {child time : Nat}

theorem expire_of_kill_take {n : Supervisor.Move}
    (h : .daemon time (.signalled child Supervisor.kill) ∈ (s.take n).2) :
    n = .expire child ∧ time = s.clock := by
  obtain ⟨event, hevent, heq⟩ := List.mem_map.1 h
  cases heq
  exact ⟨Supervisor.expire_of_kill hevent, rfl⟩

/-- A process is killed only when it was asked to end and has had its time. -/
theorem killed_step {moves : List Move}
    (h : .daemon time (.signalled child Supervisor.kill) ∈
      ((after setup earlier moves).step setup m).2) :
    m = .expire child ∧ ∃ asked, asked + setup.stopTimeout ≤ time ∧
      .daemon asked (.signalled child Supervisor.terminate) ∈ record setup earlier moves := by
  have hwent := went setup (after setup earlier moves) m
  generalize (after setup earlier moves).step setup m = result at hwent h
  cases hwent with
  | stops | signals => cases (expire_of_kill_take h).1
  | lets hlets =>
    obtain ⟨hn, rfl⟩ := expire_of_kill_take h
    cases hlets with
    | exit | watch => cases hn
    | expire hdue =>
      cases hn
      obtain ⟨asked, hasked, htime⟩ := (Option.any_eq_true _ _).1 hdue
      refine ⟨rfl, asked, of_decide_eq_true htime, asked_after ?_⟩
      obtain ⟨before, behind, hsplit, -⟩ := List.lookup_eq_some_iff.1 hasked
      rw [hsplit]
      simp
  | _ => simp at h

end Server

end QueryConsole
