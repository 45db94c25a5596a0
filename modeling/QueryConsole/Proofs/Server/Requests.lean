import QueryConsole.Proofs.Server.Moves

/-!
# Requests under way

A request that is accepted stays under way until it is answered, whatever else happens, and it is
answered once. The server is not over before all of them are.

## Main definitions

- `Server.Ledger`: how the requests under way fit what could be seen

## Main results

- `Server.ledger_after`: every request that was accepted is under way or was answered once
- `Server.answered_of_ended`: when the server is over, each accepted request has been answered, by
  what the router made of it at that moment
-/

namespace QueryConsole

open Http (Request Answer)

namespace Server

variable {setup : Setup} {earlier : List Supervisor.Move} {s : Server} {past : List Event}
  {m : Move} {number : Nat} {r : Request}

/-- Whether an event is the answer to a request. -/
def Event.answers (number : Nat) : Event → Bool
  | .answered request _ => request == number
  | _ => false

/-- How the requests under way fit what could be seen. -/
structure Ledger (s : Server) (past : List Event) : Prop where
  /-- numbers that are still to come have not been used -/
  unused : ∀ n, s.arrived ≤ n → past.count (.accepted n) = 0
  once : ∀ n, past.count (.accepted n) ≤ 1
  balance : ∀ n, past.count (.accepted n) =
    past.countP (Event.answers n) + (s.underWay.map Prod.fst).count n
  empty : ∀ result, s.phase = .ended result → s.underWay = []

theorem Ledger.begin (supervisor : Supervisor) : Ledger { supervisor := supervisor } [] where
  unused _ _ := rfl
  once _ := Nat.zero_le 1
  balance _ := rfl
  empty := by simp

/-! ## One move -/

/-- What happens to the daemon is no news about requests. -/
theorem count_map_daemon (time : Nat) (events : List Supervisor.Event) (n : Nat) :
    (events.map (Event.daemon time)).count (.accepted n) = 0 ∧
      (events.map (Event.daemon time)).countP (Event.answers n) = 0 := by
  constructor
  · exact List.count_eq_zero.2 (by simp)
  · exact List.countP_eq_zero.2 (by simp [Event.answers])

/-- A move that leaves the requests alone. -/
theorem Ledger.quiet {t : Server} {events : List Event} (h : Ledger s past)
    (harrived : s.arrived ≤ t.arrived) (hunderWay : t.underWay = s.underWay)
    (hquiet : ∀ n, events.count (.accepted n) = 0 ∧ events.countP (Event.answers n) = 0)
    (hempty : ∀ result, t.phase = .ended result → s.underWay = []) :
    Ledger t (past ++ events) where
  unused n hn := by
    rw [List.count_append, (hquiet n).1, h.unused n (Nat.le_trans harrived hn)]
  once n := by
    rw [List.count_append, (hquiet n).1]
    exact h.once n
  balance n := by
    rw [List.count_append, List.countP_append, (hquiet n).1, (hquiet n).2, hunderWay]
    exact h.balance n
  empty result hphase := by
    rw [hunderWay]
    exact hempty result hphase

/-- A request that is under way is so once, and has not been answered. -/
theorem Ledger.count_of_lookup (h : Ledger s past) (hrequest : s.underWay.lookup number = some r) :
    (s.underWay.map Prod.fst).count number = 1 ∧ past.countP (Event.answers number) = 0 := by
  obtain ⟨before, after, hsplit, -⟩ := List.lookup_eq_some_iff.1 hrequest
  have hpos : 0 < (s.underWay.map Prod.fst).count number := by
    rw [List.count_pos_iff, hsplit]
    simp
  have honce := h.once number
  have hbalance := h.balance number
  omega

theorem Ledger.step (h : Ledger s past) (setup : Setup) (m : Move) :
    Ledger (s.step setup m).1 (past ++ (s.step setup m).2) := by
  have hwent := went setup s m
  generalize s.step setup m = result at hwent
  have hnone (n : Nat) : [].count (Event.accepted n) = 0 ∧ [].countP (Event.answers n) = 0 :=
    ⟨rfl, rfl⟩
  cases hwent with
  | nothing | passes => exact h.quiet (Nat.le_refl _) rfl hnone h.empty
  | stops | lets => exact h.quiet (Nat.le_refl _) rfl (count_map_daemon _ _) h.empty
  | signals hphase => exact h.quiet (Nat.le_refl _) rfl (count_map_daemon _ _) nofun
  | closes hphase hcall => exact h.quiet (Nat.le_refl _) rfl hnone nofun
  | finishes hphase hempty => exact h.quiet (Nat.le_refl _) rfl hnone fun _ _ => hempty
  | refuses hclosed =>
    exact h.quiet (Nat.le_succ _) rfl (fun n => ⟨by simp, by simp [Event.answers]⟩) h.empty
  | @accepts r hlistening =>
    -- its number has not been used, so it is accepted once and is under way once
    have hcount (n : Nat) : [Event.accepted s.arrived].count (.accepted n) =
        if s.arrived = n then 1 else 0 := by
      simp [List.count_singleton]
    have hanswers (n : Nat) : [Event.accepted s.arrived].countP (Event.answers n) = 0 := rfl
    constructor
    · intro n hn
      have hn : s.arrived + 1 ≤ n := hn
      rw [List.count_append, hcount, if_neg (by omega), h.unused n (by omega)]
    · intro n
      have honce := h.once n
      have hunused := h.unused n
      rw [List.count_append, hcount]
      split <;> omega
    · intro n
      have hbalance := h.balance n
      rw [List.count_append, List.countP_append, hcount, hanswers, List.map_append,
        List.count_append, hbalance]
      simp [List.count_singleton]
      omega
    · intro result hphase
      rw [show s.phase = .ended result from hphase] at hlistening
      cases hlistening
  | @answers number r hrequest =>
    -- it was under way once and not answered, so it is answered once and no longer under way
    obtain ⟨hunder, hunanswered⟩ := h.count_of_lookup hrequest
    have hmap : (s.underWay.filter (·.1 != number)).map Prod.fst =
        (s.underWay.map Prod.fst).filter (· != number) := by
      rw [List.filter_map]
      rfl
    have hcount (answer : Answer) (n : Nat) :
        [Event.answered number answer].count (.accepted n) = 0 := by simp
    constructor
    · intro n hn
      rw [List.count_append, hcount, h.unused n hn]
    · intro n
      rw [List.count_append, hcount]
      exact h.once n
    · intro n
      simp only [List.count_append, List.countP_append, hcount, hmap, Event.answers,
        List.countP_singleton, beq_iff_eq]
      by_cases hn : number = n
      · subst hn
        have hgone : ((s.underWay.map Prod.fst).filter (· != number)).count number = 0 :=
          List.count_eq_zero.2 (by simp)
        rw [if_pos rfl, hgone, h.balance number, hunder, hunanswered]
      · rw [if_neg hn, List.count_filter (by simpa using Ne.symm hn)]
        exact h.balance n
    · intro result hphase
      rw [h.empty result hphase]
      rfl

/-- Every request that was accepted is under way or was answered once. -/
theorem ledger_after (setup : Setup) (earlier : List Supervisor.Move) (moves : List Move) :
    Ledger (after setup earlier moves) (record setup earlier moves) := by
  induction moves using List.reverseRecOn with
  | nil => exact .begin _
  | append_singleton moves m ih =>
    rw [after_concat, record_concat]
    exact ih.step setup m

/-! ## One request -/

theorem lookup_of_accepts (h : Ledger s past) (hlistening : s.phase.isListening = true)
    (setup : Setup) (r : Request) :
    (s.step setup (.request r)).1.underWay.lookup s.arrived = some r := by
  have hcount : (s.underWay.map Prod.fst).count s.arrived = 0 := by
    have hbalance := h.balance s.arrived
    have hunused := h.unused s.arrived (Nat.le_refl _)
    omega
  have hnone : s.underWay.lookup s.arrived = none := by
    refine List.lookup_eq_none_iff.2 fun entry hentry => ?_
    have hne : s.arrived ≠ entry.1 := by
      rintro heq
      exact List.count_eq_zero.1 hcount (heq ▸ List.mem_map_of_mem hentry)
    simpa using hne
  simp only [step, if_pos hlistening]
  rw [List.lookup_append, hnone]
  simp

theorem lookup_filter_ne {l : List (Nat × Request)} {n : Nat} (h : n ≠ number) :
    (l.filter (·.1 != number)).lookup n = l.lookup n := by
  induction l with
  | nil => rfl
  | cons entry rest ih =>
    obtain ⟨k, r⟩ := entry
    by_cases hk : k = number
    · subst hk
      have hkey : (n == k) = false := by simpa using h
      simp [List.lookup_cons, ih, hkey]
    · simp [hk, List.lookup_cons, ih]

/-- A request stays under way until it is answered. -/
theorem lookup_step (hrequest : s.underWay.lookup number = some r) (hm : m ≠ .answer number) :
    (s.step setup m).1.underWay.lookup number = some r := by
  have hwent := went setup s m
  generalize s.step setup m = result at hwent
  cases hwent with
  | accepts hlistening =>
    rw [List.lookup_append, hrequest]
    rfl
  | @answers answered r' hanswered =>
    have hne : number ≠ answered := by
      rintro rfl
      exact hm rfl
    rw [lookup_filter_ne hne]
    exact hrequest
  | _ => exact hrequest

/-- A request that was accepted is under way still, or has been answered in the meantime. -/
theorem lookup_or_answered {moves : List Move}
    (hrequest : (after setup earlier moves).underWay.lookup number = some r) (later : List Move) :
    (after setup earlier (moves ++ later)).underWay.lookup number = some r ∨
      ∃ a b, later = a ++ .answer number :: b ∧
        (after setup earlier (moves ++ a)).underWay.lookup number = some r := by
  -- from the end of the run: the last move answers it, or leaves it as it was
  induction later using List.reverseRecOn with
  | nil => exact .inl (by rwa [List.append_nil])
  | append_singleton later m ih =>
    obtain hunder | ⟨a, b, rfl, ha⟩ := ih
    · by_cases hm : m = .answer number
      · subst hm
        exact .inr ⟨later, [], rfl, hunder⟩
      · rw [← List.append_assoc, after_concat]
        exact .inl (lookup_step hunder hm)
    · exact .inr ⟨a, b ++ [m], by simp, ha⟩

/-- The answer to a request under way is what the router makes of it at that moment. -/
theorem step_answer (hrequest : s.underWay.lookup number = some r) :
    (s.step setup (.answer number)).2 =
      [.answered number (setup.router.handle s.supervisor.state s.history r).2] := by
  simp only [step, hrequest]

/-- When the server is over, each accepted request has been answered. -/
theorem answered_of_ended {before later : List Move} {result : Option Supervisor.ExitStatus}
    (hlistening : (after setup earlier before).phase.isListening = true)
    (hended : (after setup earlier (before ++ .request r :: later)).phase = .ended result) :
    ∃ a b, later = a ++ .answer (after setup earlier before).arrived :: b ∧
      ((after setup earlier (before ++ .request r :: a)).step setup
          (.answer (after setup earlier before).arrived)).2 =
        [.answered (after setup earlier before).arrived
          (setup.router.handle (after setup earlier (before ++ .request r :: a)).supervisor.state
            (after setup earlier (before ++ .request r :: a)).history r).2] := by
  have hsplit (rest : List Move) :
      before ++ .request r :: rest = (before ++ [.request r]) ++ rest := by simp
  have hrequest : (after setup earlier (before ++ [.request r])).underWay.lookup
      (after setup earlier before).arrived = some r := by
    rw [after_concat]
    exact lookup_of_accepts (ledger_after setup earlier before) hlistening setup r
  rw [hsplit] at hended
  obtain hunder | ⟨a, b, rfl, ha⟩ := lookup_or_answered hrequest later
  · rw [(ledger_after setup earlier _).empty result hended] at hunder
    cases hunder
  · refine ⟨a, b, rfl, ?_⟩
    rw [hsplit]
    exact step_answer ha

end Server

end QueryConsole
