import QueryConsole.Live.Ticker

/-!
# The ticks of a ticker

An owner who takes a tick is busy for a while, and waits for the next tick when he is free again. In
such a course one law of the ticker is behind all others: a tick that is not taken late leaves the
ticker where it would be anyway, and one that is taken late starts it over. So an owner who is never
busy for longer than a period takes every tick on time, and no two ticks are ever much closer than a
period.

## Main definitions

- `Ticker.Course`: when an owner took his ticks, and when he was free again after each

## Main results

- `Ticker.Course.takes_eq`: the ticks are the ones that a list of busy whiles leads to
- `Ticker.Course.spaced`: ticks are not made up in a burst
- `Ticker.Course.on_time`: an owner who is never busy for long is never late
-/

namespace QueryConsole

namespace Ticker

/-- The course of an owner who waits for a ticker from a given time on, up to the present: when he
took his ticks, and when he was free again after each of them. He is busy with the last tick if he
was not free again. -/
inductive Course (present : Nat) : Ticker → Nat → List Nat → List Nat → Prop
  | waiting {t : Ticker} {free : Nat} (hpresent : present ≤ t.ready free) :
    Course present t free [] []
  | busy {t : Ticker} {free : Nat} (hpresent : t.ready free ≤ present) :
    Course present t free [t.ready free] []
  | onward {t : Ticker} {free again : Nat} {taken freed : List Nat}
    (hagain : t.ready free ≤ again) (h : Course present (t.next (t.ready free)) again taken freed) :
    Course present t free (t.ready free :: taken) (again :: freed)

/-- How a course goes on when the owner has been busy since a given time. -/
inductive Engaged (present : Nat) (t : Ticker) (since : Nat) : List Nat → List Nat → Prop
  | still (hpresent : since ≤ present) : Engaged present t since [] []
  | freed {again : Nat} {taken freed : List Nat} (hagain : since ≤ again)
    (h : Course present t again taken freed) : Engaged present t since taken (again :: freed)

theorem Engaged.earlier {present since earlier : Nat} {t : Ticker} {taken freed : List Nat}
    (h : Engaged present t since taken freed) (hle : earlier ≤ since) :
    Engaged present t earlier taken freed := by
  cases h with
  | still hpresent => exact .still (Nat.le_trans hle hpresent)
  | freed hagain h => exact .freed (Nat.le_trans hle hagain) h

/-- An owner who takes his tick is busy from then on. -/
theorem Engaged.course {present free : Nat} {t : Ticker} {taken freed : List Nat}
    (h : Engaged present (t.next (t.ready free)) (t.ready free) taken freed) :
    Course present t free (t.ready free :: taken) freed := by
  cases h with
  | still hpresent => exact .busy hpresent
  | freed hagain h => exact .onward hagain h

namespace Course

variable {present free : Nat} {t : Ticker} {taken freed : List Nat}

theorem first (h : Course present t free taken freed) :
    ∀ now ∈ taken.head?, now = t.ready free := by
  intro now hnow
  cases h <;> simp_all

/-- An owner is free again once after each tick, but for the last one with which he may be busy. -/
theorem alternate (h : Course present t free taken freed) :
    taken.length = freed.length ∨ taken.length = freed.length + 1 := by
  induction h with
  | waiting hpresent => exact .inl rfl
  | busy hpresent => exact .inr rfl
  | onward hagain h ih =>
    simp only [List.length_cons]
    omega

theorem taken_le_freed (h : Course present t free taken freed) :
    ∀ (k now again : Nat), taken[k]? = some now → freed[k]? = some again → now ≤ again := by
  induction h with
  | waiting hpresent => simp
  | busy hpresent => simp
  | @onward t free again taken freed hagain h ih =>
    intro k now later hnow hlater
    cases k with
    | zero =>
      simp only [List.getElem?_cons_zero, Option.some.injEq] at hnow hlater
      omega
    | succ k => exact ih k now later hnow hlater

/-- The next tick is taken when the owner is free again. -/
theorem freed_le_taken (h : Course present t free taken freed) :
    ∀ (k again now : Nat), freed[k]? = some again → taken[k + 1]? = some now → again ≤ now := by
  induction h with
  | waiting hpresent => simp
  | busy hpresent => simp
  | @onward t free again taken freed hagain h ih =>
    intro k earlier now hearlier hnow
    cases k with
    | zero =>
      rw [List.getElem?_cons_zero, Option.some.injEq] at hearlier
      rw [List.getElem?_cons_succ, ← List.head?_eq_getElem?] at hnow
      have hready := h.first now hnow
      rw [ready] at hready
      omega
    | succ k => exact ih k earlier now hearlier hnow

/-- The ticks are the ones that a list of busy whiles leads to. -/
theorem takes_eq (h : Course present t free taken freed) :
    ∃ busy, taken = t.takes free busy ∧
      freed = (List.zipWith (· + ·) taken busy).take freed.length := by
  induction h with
  | waiting hpresent => exact ⟨[], rfl, rfl⟩
  | busy hpresent => exact ⟨[0], rfl, rfl⟩
  | @onward t free again taken freed hagain h ih =>
    obtain ⟨busy, htaken, hfreed⟩ := ih
    have hbusy : t.ready free + (again - t.ready free) = again := by omega
    refine ⟨(again - t.ready free) :: busy, ?_, ?_⟩
    · rw [takes, hbusy, ← htaken]
    · rw [List.zipWith_cons_cons, hbusy, List.length_cons, List.take_succ_cons, ← hfreed]

/-- Two ticks are a period apart, but for the time by which a tick may be late without counting as
late. -/
theorem spaced (h : Course present t free taken freed) :
    ∀ (k now later : Nat), taken[k]? = some now → taken[k + 1]? = some later →
      now + t.period ≤ later + slack := by
  induction h with
  | waiting hpresent => simp
  | busy hpresent => simp
  | @onward t free again taken freed hagain h ih =>
    intro k now later hnow hlater
    cases k with
    | zero =>
      rw [List.getElem?_cons_zero, Option.some.injEq] at hnow
      rw [List.getElem?_cons_succ, ← List.head?_eq_getElem?] at hlater
      have hready := h.first later hlater
      have hdue : (t.next (t.ready free)).deadline ≤ later := by
        rw [hready]
        exact Nat.le_max_right _ _
      rw [hnow, next] at hdue
      dsimp only at hdue
      split at hdue <;> omega
    | succ k => exact ih k now later hnow hlater

/-- An owner who is free when the ticker falls due, and never busy for longer than a period, takes
every tick when it falls due, and has taken all that have fallen due. -/
theorem on_time (h : Course present t free taken freed) (hfree : free ≤ t.deadline)
    (hshort : ∀ k now : Nat, taken[k]? = some now → freed[k]?.getD present ≤ now + t.period) :
    (∀ k now : Nat, taken[k]? = some now → now = t.deadline + k * t.period) ∧
      present ≤ t.deadline + taken.length * t.period := by
  induction h with
  | @waiting t free hpresent =>
    rw [ready] at hpresent
    refine ⟨by simp, ?_⟩
    simp only [List.length_nil, Nat.zero_mul]
    omega
  | @busy t free hpresent =>
    have hready : t.ready free = t.deadline := Nat.max_eq_right hfree
    rw [hready] at hshort ⊢
    have hlast := hshort 0 t.deadline rfl
    simp only [List.getElem?_nil, Option.getD_none] at hlast
    constructor
    · intro k now hnow
      cases k with
      | zero => simpa using hnow.symm
      | succ k => simp at hnow
    · simp only [List.length_singleton, Nat.one_mul]
      exact hlast
  | @onward t free again taken freed hagain h ih =>
    have hready : t.ready free = t.deadline := Nat.max_eq_right hfree
    rw [hready] at hshort ⊢
    -- taken on time, the tick leaves the ticker one period further
    have hnext : t.next (t.ready free) = ⟨t.deadline + t.period, t.period⟩ := by
      rw [hready, next, if_pos (Nat.le_add_right _ _)]
    have hfirst : again ≤ t.deadline + t.period := hshort 0 t.deadline rfl
    rw [hnext] at ih
    obtain ⟨hrest, hpresent⟩ := ih hfirst fun k now hnow => hshort (k + 1) now hnow
    constructor
    · intro k now hnow
      cases k with
      | zero => simpa using hnow.symm
      | succ k =>
        have hlater : now = t.deadline + t.period + k * t.period := hrest k now hnow
        rw [Nat.succ_mul]
        omega
    · have hlater : present ≤ t.deadline + t.period + taken.length * t.period := hpresent
      rw [List.length_cons, Nat.succ_mul]
      omega

end Course

end Ticker

end QueryConsole
