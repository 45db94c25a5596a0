import QueryConsole.Proofs.Session.LivePanel
import QueryConsole.Proofs.Session.Turn

/-!
# The selection and the live view agree

A table is watched only while it is the selected one and the live tab is open. Four things act on
both the selection and the live view: a table is selected, a tab is entered, the live view is
closed, or the daemon has changed to another database. The last of them comes after a wait, during
which the other calls may have done anything to either; it leaves nothing watched.

## Main definitions

- `Session.Agrees`: the live view of a session watches what is selected

## Main results

- `Session.Run.Agrees.exec`: every run keeps the two in agreement
- `watched_table_selected`: so they agree at every moment of every run
-/

namespace QueryConsole

namespace Session

variable {s : Session} {now : Nat} {action : Action} {stage : Stage} {outcome : Outcome}
  {t : Turn}

/-- The watched table is selected, on the live tab, and can stand inside a statement. -/
def Agrees (s : Session) : Prop :=
  ∀ sub, s.live.active = some sub →
    s.selection.table = some sub.table ∧ s.selection.tab = .live ∧
      Identifier.isValid sub.table = true

theorem Agrees.of_idle (h : s.live.active = none) : s.Agrees := by
  intro sub hsub
  rw [h] at hsub
  cases hsub

theorem Agrees.watch (now : Nat) {table : String} (h : Identifier.isValid table = true) :
    (s.watch now table).Agrees := by
  intro sub hsub
  obtain rfl : ⟨s.live.issued + 1, table⟩ = sub := Option.some.inj hsub
  exact ⟨rfl, rfl, h⟩

/-- Only the live tab is left with the live view; it may be entered again and again. -/
theorem Agrees.enter (h : s.Agrees) (tab : Tab) : (s.enter tab).Agrees := by
  by_cases hleft : s.selection.tab = .live ∧ tab ≠ .live
  · refine Agrees.of_idle ?_
    simp [Session.enter, hleft]
  · intro sub hsub
    have hactive : s.live.active = some sub := by simpa [Session.enter, hleft] using hsub
    obtain ⟨htable, htab, hvalid⟩ := h sub hactive
    have hlive : tab = .live := by
      by_contra hother
      exact hleft ⟨htab, hother⟩
    exact ⟨htable, hlive, hvalid⟩

/-! ## One turn -/

theorem Begins.agrees (hturn : Begins s now action t) (h : s.Agrees) : t.session.Agrees := by
  cases hturn with
  | rejected hrefusal => exact h
  | waits hrefusal hstage => exact h
  | selects hvalid => exact Agrees.watch now hvalid
  | enters => exact h.enter _
  | closes => exact Agrees.of_idle rfl

/-- Whatever happened during the wait: a call that goes on changes nothing, or hands the
subscription back. -/
theorem Resumes.agrees (hturn : Resumes s stage outcome t) (h : s.Agrees) :
    t.session.Agrees := by
  cases hturn with
  | unanswered => exact h
  | answered hrender => exact h
  | broken hrender => exact h
  | reported hanswer hlisting => exact h
  | created haccepted => exact h
  | listed => exact h
  | undrawn hdrawn => exact h
  | changed haccepted => exact Agrees.of_idle rfl
  | named hnames => exact h

/-! ## Runs -/

namespace Run

variable {r : Run}

theorem Agrees.step (h : r.session.Agrees) (m : Move) : (r.step m).1.session.Agrees := by
  cases m with
  | begin now action => exact (r.session.begins now action).agrees h
  | answer call outcome =>
    simp only [Run.step]
    cases hp : r.pending.find? (·.call == call) with
    | none => exact h
    | some p => exact (r.session.resumes p.stage outcome).agrees h
  | ask now id => exact fun sub hsub => h sub (by simpa [Run.step, live] using hsub)
  | receive id outcome => exact fun sub hsub => h sub (by simpa [Run.step, live] using hsub)
  | look id => exact fun sub hsub => h sub (by simpa [Run.step, live] using hsub)
  | drop => exact Agrees.of_idle rfl

theorem Agrees.exec (h : r.session.Agrees) (moves : List Move) :
    (r.exec moves).1.session.Agrees := by
  induction moves generalizing r with
  | nil => exact h
  | cons m moves ih => exact ih (Agrees.step h m)

end Run

end Session

/-- At every moment of every run of a session, with any number of calls under way: if a table is
watched, it is the selected one, the live tab is open, and the table's name can stand inside a
statement. -/
theorem watched_table_selected (renderer : Renderer) (period : Nat) (run : List Session.Move)
    (table : String)
    (h : (Session.Run.after renderer period run).session.live.table = some table) :
    (Session.Run.after renderer period run).session.selection.table = some table ∧
      (Session.Run.after renderer period run).session.selection.tab = .live ∧
      Identifier.isValid table = true := by
  have hstart : (Session.Run.start renderer period).session.Agrees :=
    Session.Agrees.of_idle (by rw [(Session.Run.start_session renderer period).1])
  obtain ⟨sub, hsub, rfl⟩ := Option.map_eq_some_iff.1 h
  exact Session.Run.Agrees.exec hstart run sub hsub

/-- While two changes of the database are under way a table is selected and another one after it;
the daemon refuses one change and has not answered the other. -/
theorem watched_table_selected_amid_changes :
    let run : List Session.Move := [.begin 0 (.use "shop"), .begin 0 (.select "t"),
      .begin 0 (.use "hr"), .ask 2000 1, .answer 0 (.ok (.failure "no such database")),
      .begin 2100 (.select " t2 "), .receive 1 (.ok (.tabular []))]
    let session := (Session.Run.after .html 0 run).session
    session.live.table = some "t2" ∧
      session.selection.table = some "t2" ∧ session.selection.tab = .live ∧
      Identifier.isValid "t2" = true := by
  intro run session
  have hwatched : session.live.table = some "t2" := by decide +kernel
  exact ⟨hwatched, watched_table_selected .html 0 run "t2" hwatched⟩

end QueryConsole
