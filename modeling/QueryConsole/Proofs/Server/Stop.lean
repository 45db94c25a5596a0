import QueryConsole.Proofs.Server.Moves
import QueryConsole.Proofs.Supervisor.Overtaken
import QueryConsole.Proofs.Supervisor.Returns

/-!
# The call that stops the daemon

While the server serves, no call goes on. When it is told to shut down, one call comes in, which
stops the daemon, and its steps and those of the watches and the processes are taken in any order.
So the supervisor is at every moment where such a call leads it, and when the call is over all
processes are reaped.

## Main definitions

- `Server.IsLate`, `Server.Overtaken`: the daemon ends when the call has looked at the state and has
  not yet written it
- `Server.Course`: what the supervisor has done so far

## Main results

- `Server.course_after`: the supervisor does nothing else
- `Server.Tells.leaves`: how the daemon is left when the call is over
-/

namespace QueryConsole

namespace Supervisor

variable {s : Supervisor} {child n : Nat} {state : State} {handle : Option Nat} {stuck : Bool}
  {result : Option ExitStatus} {status : ExitStatus}

/-! ## A call that is over -/

/-- When all watches are done, all processes are reaped. -/
theorem At.reaped (h : s.At state handle (dones n)) : ∀ c ∈ s.children, c.isUnreaped = false := by
  intro c hc
  have hstage : c.watch.stage ∈ s.stages := List.mem_map_of_mem hc
  rw [h.stages] at hstage
  have hdone : c.watch.stage = .done := List.eq_of_mem_replicate hstage
  cases hwatch : c.watch with
  | finished status => simp [Child.isUnreaped, hwatch]
  | _ =>
    rw [hwatch] at hdone
    cases hdone

theorem Halting.reaped (h : s.Halting stuck (.stopped result)) :
    ∀ c ∈ s.children, c.isUnreaped = false := by
  cases h with
  | nothing h => exact h.reaped
  | stopped h => exact h.reaped

/-- What the call returns is what the watch over the last process has found. -/
theorem Halting.last (h : s.Halting stuck (.stopped (some status))) :
    ∃ c, s.children.getLast? = some c ∧ c.watch = .finished status := by
  cases h with
  | @stopped _ n _ h hresult =>
    obtain ⟨c, hc, hwatch⟩ := result?_eq_some_iff.1 hresult
    have hlength : s.children.length = n + 1 := by
      rw [← length_dones (n + 1), ← h.stages, stages, List.length_map]
    refine ⟨c, ?_, hwatch⟩
    rw [List.getLast?_eq_getElem?, hlength]
    exact hc

end Supervisor

namespace Server

open Supervisor (reached Beat Aside)

variable {setup : Setup} {earlier : List Supervisor.Move} {s : Server} {moves : List Move}
  {m : Move} {asides : List Aside} {beats : List Beat} {result : Option Supervisor.ExitStatus}

/-! ## Too late -/

/-- The call has looked at the state and is about to write it, and the daemon is stopped already. -/
def IsLate (s : Server) : Prop :=
  ∃ call child, s.phase = .stopping call ∧ s.supervisor.calls[call]? = some (.noting child) ∧
    s.supervisor.state = .stopped

/-- The daemon ends when the call has looked at the state and has not yet written it. -/
def Overtaken (setup : Setup) (earlier : List Supervisor.Move) (moves : List Move) : Prop :=
  ∃ before, before <+: moves ∧ (after setup earlier before).IsLate

theorem IsLate.overtaken (h : (after setup earlier moves).IsLate) :
    Overtaken setup earlier moves :=
  ⟨moves, List.prefix_rfl, h⟩

theorem overtaken_concat : Overtaken setup earlier (moves ++ [m]) ↔
    Overtaken setup earlier moves ∨ (after setup earlier (moves ++ [m])).IsLate := by
  simp only [Overtaken, List.prefix_concat_iff, or_and_right, exists_or, exists_eq_left]
  exact or_comm

theorem overtaken_nil : ¬ Overtaken setup earlier [] := by
  rintro ⟨before, hbefore, call, child, hphase, -⟩
  cases List.prefix_nil.1 hbefore
  cases hphase

/-- A move that leaves the supervisor and the phase alone does not make it too late. -/
theorem overtaken_same
    (hsupervisor : (after setup earlier (moves ++ [m])).supervisor =
      (after setup earlier moves).supervisor)
    (hphase : (after setup earlier (moves ++ [m])).phase = (after setup earlier moves).phase) :
    Overtaken setup earlier (moves ++ [m]) ↔ Overtaken setup earlier moves := by
  have hlate : (after setup earlier (moves ++ [m])).IsLate ↔
      (after setup earlier moves).IsLate := by
    rw [IsLate, hsupervisor, hphase]
    rfl
  rw [overtaken_concat, hlate]
  exact or_iff_left_of_imp IsLate.overtaken

/-- It is not too late where no call stops the daemon. -/
theorem overtaken_idle
    (hphase : ∀ call, (after setup earlier (moves ++ [m])).phase ≠ .stopping call) :
    Overtaken setup earlier (moves ++ [m]) ↔ Overtaken setup earlier moves := by
  rw [overtaken_concat]
  refine or_iff_left ?_
  rintro ⟨call, child, hstopping, -⟩
  exact hphase call hstopping

/-! ## The course of things -/

/-- The supervisor is where the call that stops the daemon leads it, after some steps. -/
structure Leads (setup : Setup) (earlier : List Supervisor.Move) (moves : List Move)
    (asides : List Aside) (beats : List Beat) : Prop where
  supervisor : (after setup earlier moves).supervisor =
    ((reached earlier).idle asides).attend .stop beats
  overtaken : Overtaken setup earlier moves ↔ ((reached earlier).idle asides).Overtaken beats

/-- What the supervisor has done so far, phase by phase. -/
inductive Course (setup : Setup) (earlier : List Supervisor.Move) (moves : List Move) : Prop
  | serving {asides : List Aside} (hphase : (after setup earlier moves).phase = .serving)
    (hsupervisor : (after setup earlier moves).supervisor = (reached earlier).idle asides)
    (hovertaken : ¬ Overtaken setup earlier moves)
  | stopping {asides : List Aside} {beats : List Beat}
    (hphase : (after setup earlier moves).phase = .stopping (reached earlier).calls.length)
    (hleads : Leads setup earlier moves asides beats)
  | closed {asides : List Aside} {beats : List Beat} {result : Option Supervisor.ExitStatus}
    (hphase : (after setup earlier moves).phase = .draining result ∨
      (after setup earlier moves).phase = .ended result)
    (hleads : Leads setup earlier moves asides beats)
    (hover : ((reached earlier).idle asides).outcome .stop beats = some (.stopped result))

theorem isLate_iff {call : Nat} (hphase : s.phase = .stopping call) : s.IsLate ↔
    ∃ child, s.supervisor.calls[call]? = some (.noting child) ∧ s.supervisor.state = .stopped := by
  constructor
  · rintro ⟨other, child, hother, hcall, hstate⟩
    cases hphase.symm.trans hother
    exact ⟨child, hcall, hstate⟩
  · rintro ⟨child, hcall, hstate⟩
    exact ⟨call, child, hphase, hcall, hstate⟩

/-- A step aside from the call is taken after it. -/
theorem Leads.aside (h : Leads setup earlier moves asides beats) (a : Aside)
    (hover : ((reached earlier).idle asides).outcome .stop beats = some (.stopped result))
    (hphase : ∀ call, (after setup earlier (moves ++ [m])).phase ≠ .stopping call)
    (hsupervisor : (after setup earlier (moves ++ [m])).supervisor =
      ((after setup earlier moves).supervisor.step a.move).1) :
    Leads setup earlier (moves ++ [m]) asides (beats ++ [.aside a]) ∧
      ((reached earlier).idle asides).outcome .stop (beats ++ [.aside a]) =
        some (.stopped result) := by
  have hstays : ((reached earlier).idle asides).outcome .stop (beats ++ [.aside a]) =
      some (.stopped result) := by
    rw [Supervisor.outcome, Supervisor.attend_concat, Beat.move, (Supervisor.calls_aside _ a).1]
    exact hover
  refine ⟨⟨?_, ?_⟩, hstays⟩
  · rw [hsupervisor, h.supervisor, Supervisor.attend_concat]
    rfl
  · rw [overtaken_idle hphase, Supervisor.overtaken_concat, h.overtaken, hstays]
    simp

/-- A move that leaves the supervisor and the phase alone leaves the course as it is. -/
theorem Course.same (h : Course setup earlier moves)
    (hsupervisor : (after setup earlier (moves ++ [m])).supervisor =
      (after setup earlier moves).supervisor)
    (hphase : (after setup earlier (moves ++ [m])).phase = (after setup earlier moves).phase) :
    Course setup earlier (moves ++ [m]) := by
  have hsame := overtaken_same hsupervisor hphase
  cases h with
  | serving hserving hidle hovertaken =>
    exact .serving (hphase.trans hserving) (hsupervisor.trans hidle) (mt hsame.1 hovertaken)
  | stopping hstopping hleads =>
    exact .stopping (hphase.trans hstopping)
      ⟨hsupervisor.trans hleads.supervisor, hsame.trans hleads.overtaken⟩
  | closed hclosed hleads hover =>
    exact .closed (by rwa [hphase])
      ⟨hsupervisor.trans hleads.supervisor, hsame.trans hleads.overtaken⟩ hover

/-- A step is taken while the call goes on. -/
theorem Leads.beat (h : Leads setup earlier moves asides beats) (b : Beat)
    (hphase : (after setup earlier (moves ++ [m])).phase = .stopping (reached earlier).calls.length)
    (hsupervisor : (after setup earlier (moves ++ [m])).supervisor =
      ((after setup earlier moves).supervisor.step (b.move (reached earlier).calls.length)).1) :
    Leads setup earlier (moves ++ [m]) asides (beats ++ [b]) := by
  have hnow : (after setup earlier (moves ++ [m])).supervisor =
      ((reached earlier).idle asides).attend .stop (beats ++ [b]) := by
    rw [hsupervisor, h.supervisor, Supervisor.attend_concat, Supervisor.calls_idle]
  refine ⟨hnow, ?_⟩
  rw [overtaken_concat, Supervisor.overtaken_concat, h.overtaken, isLate_iff hphase, hnow,
    Supervisor.outcome, Supervisor.calls_idle]

/-- A step that no call takes. -/
theorem Course.aside (h : Course setup earlier moves) (a : Aside)
    (hsupervisor : (after setup earlier (moves ++ [m])).supervisor =
      ((after setup earlier moves).supervisor.step a.move).1)
    (hphase : (after setup earlier (moves ++ [m])).phase = (after setup earlier moves).phase) :
    Course setup earlier (moves ++ [m]) := by
  cases h with
  | @serving asides hserving hidle hovertaken =>
    have hserving' := hphase.trans hserving
    have hidle' : (after setup earlier (moves ++ [m])).supervisor =
        (reached earlier).idle (asides ++ [a]) := by
      rw [hsupervisor, hidle, Supervisor.idle_concat]
    refine .serving hserving' hidle' ?_
    rw [overtaken_idle (by simp [hserving'])]
    exact hovertaken
  | stopping hstopping hleads =>
    have hstopping' := hphase.trans hstopping
    exact .stopping hstopping' (hleads.beat (.aside a) hstopping' hsupervisor)
  | closed hclosed hleads hover =>
    rw [← hphase] at hclosed
    obtain ⟨hleads', hover'⟩ := hleads.aside a hover
      (by obtain hclosed | hclosed := hclosed <;> simp [hclosed]) hsupervisor
    exact .closed hclosed hleads' hover'

theorem Course.step (h : Course setup earlier moves) (m : Move) :
    Course setup earlier (moves ++ [m]) := by
  have hafter := after_concat setup earlier moves m
  have hwent := went setup (after setup earlier moves) m
  generalize (after setup earlier moves).step setup m = result at hwent hafter
  cases hwent with
  | nothing | passes | accepts | refuses | answers =>
    exact h.same (by rw [hafter]) (by rw [hafter])
  | lets hlets => exact h.aside _ (by rw [hafter]; rfl) (by rw [hafter]; rfl)
  | stops hphase =>
    cases h with
    | serving hserving => cases hphase.symm.trans hserving
    | closed hclosed => simp [hphase] at hclosed
    | stopping hstopping hleads =>
      cases hphase.symm.trans hstopping
      have hstopping' : (after setup earlier (moves ++ [.stop])).phase =
          .stopping (reached earlier).calls.length := by
        rw [hafter]
        exact hstopping
      exact .stopping hstopping'
        (hleads.beat (.own (.ok ())) hstopping' (by rw [hafter]; rfl))
  | signals hphase =>
    cases h with
    | stopping hstopping => cases hphase.symm.trans hstopping
    | closed hclosed => simp [hphase] at hclosed
    | @serving asides hserving hidle hovertaken =>
      have hstopping : (after setup earlier (moves ++ [.signal])).phase =
          .stopping (reached earlier).calls.length := by
        rw [hafter, ← Supervisor.calls_idle (reached earlier) asides, ← hidle]
        rfl
      have hnow : (after setup earlier (moves ++ [.signal])).supervisor =
          ((reached earlier).idle asides).attend .stop [] := by
        rw [hafter, ← hidle]
        rfl
      refine .stopping hstopping ⟨hnow, ?_⟩
      -- the call has looked at nothing yet
      rw [overtaken_concat, isLate_iff hstopping, hnow,
        ← Supervisor.calls_idle (reached earlier) asides]
      refine iff_of_false ?_ (Supervisor.not_overtaken_nil _)
      rintro (hbefore | ⟨child, hcall, -⟩)
      · exact hovertaken hbefore
      · simp [Supervisor.attend, Supervisor.runSteps, Supervisor.step] at hcall
  | @closes call result hphase hcall =>
    cases h with
    | serving hserving => cases hphase.symm.trans hserving
    | closed hclosed => simp [hphase] at hclosed
    | @stopping asides beats hstopping hleads =>
      cases hphase.symm.trans hstopping
      have hdraining : (after setup earlier (moves ++ [.close])).phase = .draining result := by
        rw [hafter]
      have hnow : (after setup earlier (moves ++ [.close])).supervisor =
          (after setup earlier moves).supervisor := by
        rw [hafter]
      refine .closed (.inl hdraining) ⟨hnow.trans hleads.supervisor, ?_⟩ ?_
      · rw [overtaken_idle (by simp [hdraining])]
        exact hleads.overtaken
      · rw [Supervisor.outcome, Supervisor.calls_idle, ← hleads.supervisor]
        exact hcall
  | @finishes result hphase hempty =>
    cases h with
    | serving hserving => cases hphase.symm.trans hserving
    | stopping hstopping => cases hphase.symm.trans hstopping
    | closed hclosed hleads hover =>
      have hended : (after setup earlier (moves ++ [.finish])).phase = .ended result := by
        rw [hafter]
      have hnow : (after setup earlier (moves ++ [.finish])).supervisor =
          (after setup earlier moves).supervisor := by
        rw [hafter]
      obtain hdraining | hbefore := hclosed
      · cases hphase.symm.trans hdraining
        refine .closed (.inr hended) ⟨hnow.trans hleads.supervisor, ?_⟩ hover
        rw [overtaken_idle (by simp [hended])]
        exact hleads.overtaken
      · cases hphase.symm.trans hbefore

/-- The supervisor does nothing else. -/
theorem course_after (setup : Setup) (earlier : List Supervisor.Move) (moves : List Move) :
    Course setup earlier moves := by
  induction moves using List.reverseRecOn with
  | nil =>
    have hidle : (after setup earlier []).supervisor = (reached earlier).idle [] := rfl
    exact .serving rfl hidle overtaken_nil
  | append_singleton moves m ih => exact ih.step m

/-- While the call goes on and afterwards, things are as it expects. -/
theorem Leads.attended (h : Leads setup earlier moves asides beats)
    (hquiet : (reached earlier).Quiet) :
    ∃ c, Supervisor.Attended ((reached earlier).idle asides) c
        (after setup earlier moves).supervisor ∧
      ∃ stuck, (after setup earlier moves).supervisor.Halting stuck c := by
  obtain ⟨hlock, hrest⟩ :=
    (hquiet.idle asides).rest ((Supervisor.kept_reached earlier).idle asides)
  obtain ⟨c, hattended, stuck, hhalting, -⟩ := Supervisor.attended_stop hlock hrest beats
  rw [h.supervisor]
  exact ⟨c, hattended, stuck, hhalting⟩

/-- What watches have found is how the processes ended. -/
theorem Leads.honest (h : Leads setup earlier moves asides beats) :
    (after setup earlier moves).supervisor.Honest := by
  rw [h.supervisor]
  exact ((Supervisor.honest_reached earlier).runSteps _).runSteps _

/-! ## When the call is over -/

/-- The server says how the daemon ended, once the listener is closed. -/
def Tells (setup : Setup) (earlier : List Supervisor.Move) (moves : List Move)
    (result : Option Supervisor.ExitStatus) : Prop :=
  (after setup earlier moves).phase = .draining result ∨
    (after setup earlier moves).phase = .ended result

theorem tells_of_closed (h : (after setup earlier moves).phase.isListening = false) :
    ∃ result, Tells setup earlier moves result := by
  cases hphase : (after setup earlier moves).phase with
  | draining result => exact ⟨result, .inl hphase⟩
  | ended result => exact ⟨result, .inr hphase⟩
  | _ =>
    rw [hphase] at h
    cases h

theorem Tells.course (h : Tells setup earlier moves result) :
    ∃ asides beats, Leads setup earlier moves asides beats ∧
      ((reached earlier).idle asides).outcome .stop beats = some (.stopped result) := by
  cases course_after setup earlier moves with
  | serving hserving => simp [Tells, hserving] at h
  | stopping hstopping => simp [Tells, hstopping] at h
  | @closed asides beats found hclosed hleads hover =>
    obtain rfl : found = result := by
      obtain hdraining | hended := hclosed <;> simp_all [Tells]
    exact ⟨asides, beats, hleads, hover⟩

/-- How the daemon is left when the call is over. -/
structure Leaves (setup : Setup) (earlier : List Supervisor.Move) (moves : List Move)
    (result : Option Supervisor.ExitStatus) : Prop where
  reaped : ∀ c ∈ (after setup earlier moves).supervisor.children, c.isUnreaped = false
  state : (after setup earlier moves).supervisor.state = .stopped ↔
    (reached earlier).state ≠ .stopping ∧ ¬ Overtaken setup earlier moves
  last : ∀ status, result = some status → ∃ c,
    (after setup earlier moves).supervisor.children.getLast? = some c ∧ c.ended = some status
  owed : result.isSome = true ↔ Supervisor.Owed (Supervisor.returns {} earlier)

theorem Tells.leaves (h : Tells setup earlier moves result) (hquiet : (reached earlier).Quiet) :
    Leaves setup earlier moves result := by
  obtain ⟨asides, beats, hleads, hover⟩ := h.course
  obtain ⟨c, hattended, stuck, hhalting⟩ := hleads.attended hquiet
  have hcall : some c = some (.stopped result) := by
    rw [← hover, Supervisor.outcome, ← hleads.supervisor, hattended.getElem?]
  cases hcall
  have hkept := Supervisor.kept_reached earlier
  constructor
  · exact hhalting.reaped
  · rw [hleads.supervisor, hleads.overtaken, ne_eq, ← hquiet.stopping_idle hkept asides]
    exact (Supervisor.stopsOrSticks (hquiet.idle asides) (hkept.idle asides) hover).stopped
  · rintro status rfl
    obtain ⟨d, hd, hwatch⟩ := hhalting.last
    exact ⟨d, hd, hleads.honest d (List.mem_of_getLast? hd) status (.inr hwatch)⟩
  · -- the handle decides, and no step aside from a call changes it
    have hfree := (hquiet.rest hkept).1
    have hfree' := ((hquiet.idle asides).rest (hkept.idle asides)).1
    rw [← Supervisor.handle_reached earlier (.inl hfree), ← Supervisor.handle_idle _ asides,
      Option.isSome_iff_ne_none, ne_eq, Supervisor.stopped_none_iff hfree' hover, ← ne_eq,
      Option.ne_none_iff_exists']

end Server

end QueryConsole
