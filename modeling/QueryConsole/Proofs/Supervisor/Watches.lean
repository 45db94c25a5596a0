import Mathlib.Data.List.Forall2
import QueryConsole.Supervisor.Step

/-!
# Watches at work

What happens to the daemon while no call makes a step. A process may end and the watch over it may
go on at any moment, but only one thing is ever seen of it: the watch over the last process is done,
and writes that the daemon is stopped.

## Main definitions

- `Supervisor.Aside`: a step that no call takes
- `Supervisor.Passed`: what such a step may do
- `Supervisor.At`: the state, the handle and the stages of the watches

## Main results

- `Supervisor.passed`: there is nothing else that such a step may do
- `Supervisor.At.busy_passed`: what it may do to a daemon whose last watch is at work
-/

namespace QueryConsole

namespace Supervisor

variable {s t : Supervisor} {child n : Nat} {status : ExitStatus}

/-! ## Watches -/

/-- How far a watch is: at work from the moment it begins until it has written the state. -/
inductive Watch.Stage
  | idle
  | busy
  | done
  deriving DecidableEq

def Watch.stage : Watch → Watch.Stage
  | .idle => .idle
  | .finished _ => .done
  | _ => .busy

def stages (s : Supervisor) : List Watch.Stage :=
  s.children.map (·.watch.stage)

def dones (n : Nat) : List Watch.Stage :=
  List.replicate n .done

theorem dones_succ (n : Nat) : dones (n + 1) = dones n ++ [.done] :=
  List.replicate_succ'

@[simp] theorem length_dones (n : Nat) : (dones n).length = n :=
  List.length_replicate

theorem busy_not_mem_dones (n : Nat) : .busy ∉ dones n := by
  intro h
  cases List.eq_of_mem_replicate h

/-- What the watch over a process has found is how the process ended. -/
def Child.Honest (c : Child) : Prop :=
  ∀ status, c.watch = .reaped status ∨ c.watch = .finished status → c.ended = some status

theorem Child.honest_reaped (status : ExitStatus) (told : Bool) :
    Child.Honest ⟨some status, told, .reaped status⟩ := by
  rintro found (hfound | hfound)
  · cases hfound
    rfl
  · cases hfound

theorem Child.honest_of_isUnreaped {c : Child} (h : c.isUnreaped = true) : c.Honest := by
  rintro found (hfound | hfound)
  · rw [isUnreaped, hfound] at h
    cases h
  · rw [isUnreaped, hfound] at h
    cases h

/-- What a step that no call takes may make of a process. -/
structure Child.Grows (c d : Child) : Prop where
  found : ∀ status, c.watch = .finished status → d.watch = .finished status
  honest : c.Honest → d.Honest

theorem Child.Grows.refl (c : Child) : c.Grows c := ⟨fun _ h => h, id⟩

theorem Child.Grows.end (c : Child) (status : ExitStatus) :
    c.Grows { c with ended := c.ended <|> some status } where
  found _ h := h
  honest h found hfound := by
    -- a process that has ended does not end in another way
    have hended := h found hfound
    rw [hended]
    rfl

theorem Child.Grows.watch {c : Child} {watch : Watch} (hbusy : c.watch.stage = .busy)
    (hwatch : c.Honest → Child.Honest { c with watch := watch }) :
    c.Grows { c with watch := watch } where
  found found hfound := by
    rw [hfound] at hbusy
    cases hbusy
  honest := hwatch

/-! ## Steps that no call takes -/

/-- A step that no call takes. -/
inductive Aside
  | exit (child : Nat) (status : ExitStatus)
  | watch (child : Nat) (wordFirst : Bool)
  | expire (child : Nat)
  deriving Repr

def Aside.move : Aside → Move
  | .exit child status => .exit child status
  | .watch child wordFirst => .watch child wordFirst
  | .expire child => .expire child

/-- What a step that no call takes may do: nothing to the daemon, or a watch is done and writes that
the daemon is stopped. -/
structure Passed (s t : Supervisor) : Prop where
  handle : t.handle = s.handle
  children : List.Forall₂ Child.Grows s.children t.children
  daemon : (t.state = s.state ∧ t.stages = s.stages) ∨
    ∃ child, s.stages[child]? = some .busy ∧ t.state = .stopped ∧
      t.stages = s.stages.set child .done

theorem forall₂_modify {l : List Child} {f : Child → Child}
    (hf : ∀ c, l[child]? = some c → c.Grows (f c)) :
    List.Forall₂ Child.Grows l (l.modify child f) := by
  refine List.forall₂_iff_get.2 ⟨by simp, fun j hj hj' => ?_⟩
  simp only [List.get_eq_getElem, List.getElem_modify]
  split
  · next he =>
    subst he
    exact hf _ (List.getElem?_eq_getElem hj)
  · exact .refl _

theorem stages_change {f : Child → Child} (stage : Watch.Stage → Watch.Stage)
    (hf : ∀ c, s.children[child]? = some c → (f c).watch.stage = stage c.watch.stage) :
    (s.change child f).stages = s.stages.modify child stage := by
  refine List.ext_getElem? fun j => ?_
  rw [stages, stages, change, List.getElem?_map, List.getElem?_modify, List.getElem?_modify,
    List.getElem?_map]
  cases hj : s.children[j]? with
  | none => rfl
  | some c =>
    by_cases hchild : child = j
    · subst hchild
      simp [hf c hj]
    · simp [hchild]

theorem stages_change_same {f : Child → Child}
    (hf : ∀ c, s.children[child]? = some c → (f c).watch.stage = c.watch.stage) :
    (s.change child f).stages = s.stages := by
  rw [stages_change id hf]
  exact List.modify_id ..

theorem Passed.refl (s : Supervisor) : Passed s s :=
  ⟨rfl, List.forall₂_same.2 fun c _ => .refl c, .inl ⟨rfl, rfl⟩⟩

theorem passed_change {f : Child → Child} (hf : ∀ c, s.children[child]? = some c →
    (f c).watch.stage = c.watch.stage ∧ c.Grows (f c)) : Passed s (s.change child f) :=
  ⟨rfl, forall₂_modify fun c hc => (hf c hc).2,
    .inl ⟨rfl, stages_change_same fun c hc => (hf c hc).1⟩⟩

theorem passed_busy {c : Child} {watch : Watch} (hc : s.children[child]? = some c)
    (hbefore : c.watch.stage = .busy) (hafter : watch.stage = .busy)
    (hhonest : Child.Honest { c with watch := watch }) :
    Passed s (s.change child ({ · with watch := watch })) := by
  refine passed_change fun d hd => ?_
  cases hc.symm.trans hd
  exact ⟨hafter.trans hbefore.symm, .watch hbefore fun _ => hhonest⟩

theorem passed_done {c : Child} (hc : s.children[child]? = some c)
    (hwatch : c.watch = .reaped status) :
    Passed s ((s.change child ({ · with watch := .finished status })).write .stopped).1 := by
  refine ⟨rfl, forall₂_modify fun d hd => ?_, .inr ⟨child, ?_, rfl, ?_⟩⟩
  · cases hc.symm.trans hd
    refine .watch (by rw [hwatch]; rfl) fun h found hfound => ?_
    obtain hfound | hfound := hfound
    · cases hfound
    · cases hfound
      exact h status (.inl hwatch)
  · rw [stages, List.getElem?_map, hc]
    simp [hwatch, Watch.stage]
  · rw [List.set_eq_modify]
    exact stages_change (fun _ => .done) fun c _ => rfl

theorem passed_watch (s : Supervisor) (child : Nat) (wordFirst : Bool) :
    Passed s (s.watchStep child wordFirst).1 := by
  rw [watchStep]
  split
  · next ended told hc =>
    cases ended with
    | none =>
      cases told with
      | false => exact .refl s
      | true => exact passed_busy hc rfl rfl (Child.honest_of_isUnreaped rfl)
    | some status =>
      dsimp only
      split
      · exact passed_busy hc rfl rfl (Child.honest_of_isUnreaped rfl)
      · exact passed_busy hc rfl rfl (Child.honest_reaped _ _)
  · next hc => exact passed_busy hc rfl rfl (Child.honest_reaped _ _)
  · next hc => exact passed_busy hc rfl rfl (Child.honest_reaped _ _)
  · next hc => exact passed_done hc rfl
  · exact .refl s

theorem passed_expire (s : Supervisor) (child : Nat) : Passed s (s.expire child).1 := by
  rw [expire]
  split
  · next hc => exact passed_busy hc rfl rfl (Child.honest_of_isUnreaped rfl)
  · exact .refl s

/-- There is nothing else that a step may do that no call takes. -/
theorem passed (s : Supervisor) (a : Aside) : Passed s (s.step a.move).1 := by
  cases a with
  | exit child status => exact passed_change fun c _ => ⟨rfl, .end c status⟩
  | watch child wordFirst => exact passed_watch s child wordFirst
  | expire child => exact passed_expire s child

theorem calls_aside (s : Supervisor) (a : Aside) :
    (s.step a.move).1.calls = s.calls ∧ (s.step a.move).1.locked = s.locked := by
  cases a with
  | exit child status => exact ⟨rfl, rfl⟩
  | watch child wordFirst =>
    change (s.watchStep child wordFirst).1.calls = _ ∧ (s.watchStep child wordFirst).1.locked = _
    rw [watchStep]
    split
    · next ended told hc =>
      cases ended with
      | none => cases told <;> exact ⟨rfl, rfl⟩
      | some status =>
        dsimp only
        split <;> exact ⟨rfl, rfl⟩
    all_goals exact ⟨rfl, rfl⟩
  | expire child =>
    change (s.expire child).1.calls = _ ∧ (s.expire child).1.locked = _
    rw [expire]
    split <;> exact ⟨rfl, rfl⟩

/-! ## What becomes of the daemon -/

/-- The state, the handle and the stages of the watches. -/
structure At (s : Supervisor) (state : State) (handle : Option Nat)
    (stages : List Watch.Stage) : Prop where
  state : s.state = state
  handle : s.handle = handle
  stages : s.stages = stages

section Daemon

variable {state : State} {handle : Option Nat}

theorem At.of_not_busy {stages : List Watch.Stage} (h : s.At state handle stages)
    (hstages : .busy ∉ stages) (hpassed : Passed s t) : t.At state handle stages := by
  obtain ⟨hstate, hsame⟩ | ⟨child, hbusy, -, -⟩ := hpassed.daemon
  · exact ⟨hstate.trans h.state, hpassed.handle.trans h.handle, hsame.trans h.stages⟩
  · rw [h.stages] at hbusy
    exact absurd (List.mem_of_getElem? hbusy) hstages

theorem At.dones_passed (h : s.At state handle (dones n)) (hpassed : Passed s t) :
    t.At state handle (dones n) :=
  h.of_not_busy (busy_not_mem_dones n) hpassed

theorem At.idle_passed (h : s.At state handle (dones n ++ [.idle])) (hpassed : Passed s t) :
    t.At state handle (dones n ++ [.idle]) :=
  h.of_not_busy (by simp [busy_not_mem_dones]) hpassed

/-- Where the watch over the last process is at work, nothing happens, or it is done and the daemon
is stopped. -/
theorem At.busy_passed (h : s.At state handle (dones n ++ [.busy])) (hpassed : Passed s t) :
    t.At state handle (dones n ++ [.busy]) ∨ t.At .stopped handle (dones (n + 1)) := by
  obtain ⟨hstate, hsame⟩ | ⟨child, hbusy, hstate, hset⟩ := hpassed.daemon
  · exact .inl ⟨hstate.trans h.state, hpassed.handle.trans h.handle, hsame.trans h.stages⟩
  · right
    rw [h.stages] at hbusy hset
    -- the last watch is the only one at work
    have hlast : child = n := by
      rw [List.getElem?_append, length_dones] at hbusy
      by_cases hlt : child < n
      · rw [if_pos hlt] at hbusy
        exact absurd (List.mem_of_getElem? hbusy) (busy_not_mem_dones n)
      · rw [if_neg hlt] at hbusy
        have hone : child - n < 1 := (List.getElem?_eq_some_iff.1 hbusy).1
        omega
    refine ⟨hstate, hpassed.handle.trans h.handle, ?_⟩
    rw [hset, hlast, dones_succ, List.set_append]
    simp

end Daemon

/-! ## What watches find -/

theorem result?_eq_some_iff : s.result? child = some status ↔
    ∃ c, s.children[child]? = some c ∧ c.watch = .finished status := by
  unfold result?
  cases hchild : s.children[child]? with
  | none => simp
  | some c =>
    obtain ⟨ended, told, watch⟩ := c
    cases watch <;> simp

theorem Passed.result? (hpassed : Passed s t) (h : s.result? child = some status) :
    t.result? child = some status := by
  obtain ⟨c, hc, hwatch⟩ := result?_eq_some_iff.1 h
  obtain ⟨hlt, hget⟩ := List.getElem?_eq_some_iff.1 hc
  have hlt' : child < t.children.length := hpassed.children.length_eq ▸ hlt
  have hgrows := (List.forall₂_iff_get.1 hpassed.children).2 child hlt hlt'
  refine result?_eq_some_iff.2 ⟨_, List.getElem?_eq_getElem hlt', hgrows.found status ?_⟩
  rw [List.get_eq_getElem, hget]
  exact hwatch

theorem stages_of_result? (h : s.result? child = some status) :
    s.stages[child]? = some .done := by
  obtain ⟨c, hc, hwatch⟩ := result?_eq_some_iff.1 h
  rw [stages, List.getElem?_map, hc]
  simp [hwatch, Watch.stage]

theorem result?_of_stages (h : s.stages[child]? = some .done) :
    ∃ status, s.result? child = some status := by
  rw [stages, List.getElem?_map] at h
  obtain ⟨c, hc, hstage⟩ := Option.map_eq_some_iff.1 h
  cases hwatch : c.watch with
  | finished status => exact ⟨status, result?_eq_some_iff.2 ⟨c, hc, hwatch⟩⟩
  | _ =>
    rw [hwatch] at hstage
    cases hstage

end Supervisor

end QueryConsole
