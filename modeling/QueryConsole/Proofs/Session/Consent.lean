import QueryConsole.Proofs.Session.Happenings
import QueryConsole.Proofs.Session.Selection

/-!
# The selection changes by consent

A database is selected when the daemon has agreed to change to it, and not before: not when the
change is asked for, and not when it fails. Then no table is selected and none is watched any more,
whatever becomes of the list of tables that is asked for next. Everything else that comes of a query
leaves the whole session as it is, so that apart from the daemon's consent only an operator who
selects a table or enters a tab changes what is selected.

## Main definitions

- `Session.Answered.consent?`, `Session.Run.consents`: the databases that the daemon agrees to
- `Session.Move.table?`, `Session.Move.tab?`, `Session.Move.closes`: what operators choose themselves
- `Session.Run.Governed`: what may change the selection, and when

## Main results

- `Session.Run.session_of_consent`: what the daemon's consent does to a session
- `Session.Run.session_of_turn`: the other turns of calls leave a session as it is
- `selection_changes_by_consent`: the selection at every moment of every run
-/

namespace QueryConsole

namespace Session

/-! ## The daemon's consent -/

/-- The database that the daemon agrees to change to with its answer. -/
def Answered.consent? (a : Answered) : Option String :=
  match a.action with
  | .use name =>
    if a.query = "USE " ++ Text.trim name ++ ";" ∧ a.reply.isFailure = false then
      some (Text.trim name)
    else none
  | _ => none

/-- The database that a session changes to when the outcome of a stage is there. -/
def Stage.database? : Stage → Outcome → Option String
  | .change name, .ok reply => if reply.isFailure = false then some name else none
  | _, _ => none

/-- A listing of tables is no change of the database. -/
theorem tables_ne_change (name : String) : Stage.tables.query ≠ "USE " ++ name ++ ";" := by
  intro h
  have hchars : "\\dt".toList = ("USE " ++ name ++ ";").toList := congrArg String.toList h
  simp at hchars

/-- The daemon agrees to a change where a call waits for that. -/
theorem Action.HasStage.consent?_eq {action : Action} {stage : Stage} (h : action.HasStage stage)
    (call : Nat) (database : Option String) (reply : Reply) :
    Answered.consent? ⟨call, action, stage.query, database, reply⟩ =
      stage.database? (.ok reply) := by
  cases h with
  | answer => rfl
  | creation => rfl
  | created => rfl
  | listing => rfl
  | change => simp only [Answered.consent?, Stage.database?, change_query, true_and]
  | changed => simp only [Answered.consent?, Stage.database?, tables_ne_change, false_and, if_false]
  | tables => rfl

/-- A call that goes on changes the session's database, or nothing of the session. -/
theorem Resumes.session_eq {s : Session} {stage : Stage} {outcome : Outcome} {t : Turn}
    (h : Resumes s stage outcome t) : t.session = (stage.database? outcome).elim s s.change := by
  cases h with
  | unanswered => cases stage <;> rfl
  | answered hrender => rfl
  | broken hrender => rfl
  | reported hanswer hlisting => cases stage <;> rfl
  | created haccepted => rfl
  | listed => rfl
  | undrawn hdrawn => rfl
  | changed haccepted => simp [Stage.database?, haccepted, await]
  | named hnames => rfl

/-! ## What operators choose themselves -/

/-- The table that an operator selects by its name. -/
def Move.table? : Move → Option String
  | .begin _ (.select name) =>
    if Identifier.isValid (Text.trim name) then some (Text.trim name) else none
  | _ => none

/-- The tab that an operator changes to. -/
def Move.tab? : Move → Option Tab
  | .begin _ (.tab tab) => some tab
  | .begin _ (.select name) => if Identifier.isValid (Text.trim name) then some .live else none
  | _ => none

/-- Whether the live view is ended as such. -/
def Move.closes : Move → Bool
  | .begin _ .close => true
  | .drop => true
  | _ => false

/-- Whether a move is a turn of a call, and not a step of a poller or the end of the session. -/
def Move.isTurn : Move → Bool
  | .begin _ _ => true
  | .answer _ _ => true
  | _ => false

/-- A call that begins leaves the session alone, unless an operator chooses something with it. -/
theorem Begins.session_eq {s : Session} {now : Nat} {action : Action} {t : Turn}
    (h : Begins s now action t) (htab : (Move.begin now action).tab? = none)
    (hcloses : (Move.begin now action).closes = false) : t.session = s := by
  cases h with
  | rejected hrefusal => rfl
  | waits hrefusal hstage => rfl
  | selects hvalid => simp [Move.tab?, hvalid] at htab
  | enters => cases htab
  | closes => cases hcloses

/-- A call that begins leaves the selected database, and the table and the tab unless an operator
chooses another. -/
theorem Begins.selection_eq {s : Session} {now : Nat} {action : Action} {t : Turn}
    (h : Begins s now action t) : t.session.selection =
      ⟨s.selection.database, (Move.begin now action).table?.or s.selection.table,
        (Move.begin now action).tab?.getD s.selection.tab⟩ := by
  cases h with
  | @rejected _ reason hrefusal =>
    cases action with
    | select name =>
      have hname : ¬Identifier.isValid (Text.trim name) = true := by
        intro hvalid
        simp [Action.refusal, hvalid] at hrefusal
      simp [reject, fail, Move.table?, Move.tab?, hname]
    | tab tab => cases hrefusal
    | _ => rfl
  | @waits _ stage hrefusal hstage =>
    cases action with
    | select name => cases hstage
    | tab tab => cases hstage
    | _ => rfl
  | selects hvalid => simp [done, watch, Move.table?, Move.tab?, hvalid]
  | enters => rfl
  | closes => rfl

namespace Run

variable {renderer : Renderer} {period : Nat}

/-- The database that the daemon agrees to change to in a move after a run from the beginning. -/
def consent? (renderer : Renderer) (period : Nat) (run : List Move) (m : Move) : Option String :=
  ((happening? renderer period run m).bind Happening.answered?).bind Answered.consent?

/-- The databases that the daemon agrees to change to in a run, in order. -/
def consents (renderer : Renderer) (period : Nat) (run : List Move) : List String :=
  (answers renderer period run).filterMap Answered.consent?

theorem consents_append_singleton (run : List Move) (m : Move) :
    consents renderer period (run ++ [m]) =
      consents renderer period run ++ (consent? renderer period run m).toList :=
  answers_filterMap_append_singleton Answered.consent? run m

theorem after_append_singleton (run : List Move) (m : Move) :
    after renderer period (run ++ [m]) = ((after renderer period run).step m).1 := by
  rw [after_append]
  rfl

/-- The daemon agrees to a change exactly when the outcome arrives that makes a waiting call change
the database. -/
theorem consent?_answer (run : List Move) (call : Nat) (outcome : Outcome) :
    consent? renderer period run (.answer call outcome) =
      ((after renderer period run).pending.find? (·.call == call)).bind
        fun p => p.stage.database? outcome := by
  have hasked := asked?_seen renderer period run call
  have horderly := (Orderly.start renderer period).exec run
  cases hp : (after renderer period run).pending.find? (·.call == call) with
  | none =>
    rw [hp] at hasked
    cases outcome <;> simp [consent?, happening?, hasked]
  | some p =>
    rw [hp] at hasked
    obtain ⟨hmem, rfl⟩ := find_some hp
    obtain ⟨action, k, haction, hstage⟩ := horderly.staged p hmem
    rw [List.nil_append] at haction
    cases outcome with
    | error e => cases hs : p.stage <;>
        simp [consent?, happening?, hasked, Happening.answered?, Stage.database?]
    | ok reply =>
      have hconsent := (Action.hasStage hstage).consent?_eq p.call
        (after renderer period run).session.selection.database reply
      simpa [consent?, happening?, hasked, haction, Happening.answered?] using hconsent

/-- The daemon agrees to a change with a reply. -/
theorem exists_answer_of_consent {run : List Move} {m : Move} {name : String}
    (h : consent? renderer period run m = some name) :
    ∃ call reply, m = .answer call (.ok reply) := by
  obtain ⟨a, ha, _⟩ := Option.bind_eq_some_iff.1 h
  obtain ⟨what, hwhat, ha⟩ := Option.bind_eq_some_iff.1 ha
  cases what with
  | answered a' => exact ⟨_, _, (eq_of_answered hwhat).1⟩
  | refused reason => cases ha
  | unreached e => cases ha
  | polled outcome => cases ha

/-! ## One move -/

/-- With the daemon's consent the session changes to the database. -/
theorem session_of_consent {run : List Move} {m : Move} {name : String}
    (h : consent? renderer period run m = some name) :
    (after renderer period (run ++ [m])).session =
      (after renderer period run).session.change name := by
  obtain ⟨call, reply, rfl⟩ := exists_answer_of_consent h
  rw [consent?_answer] at h
  obtain ⟨p, hp, hname⟩ := Option.bind_eq_some_iff.1 h
  rw [after_append_singleton, step_answer hp]
  have hsession := ((after renderer period run).session.resumes p.stage (.ok reply)).session_eq
  rwa [hname] at hsession

/-- Without it, and unless an operator chooses something, a turn of a call leaves the session as it
is. -/
theorem session_of_turn {run : List Move} {m : Move} (hturn : m.isTurn = true)
    (hconsent : consent? renderer period run m = none) (htab : m.tab? = none)
    (hcloses : m.closes = false) :
    (after renderer period (run ++ [m])).session = (after renderer period run).session := by
  rw [after_append_singleton]
  cases m with
  | begin now action =>
    exact ((after renderer period run).session.begins now action).session_eq htab hcloses
  | answer call outcome =>
    cases hp : (after renderer period run).pending.find? (·.call == call) with
    | none => rw [step_answer_none hp]
    | some p =>
      rw [consent?_answer, hp, Option.bind_some] at hconsent
      rw [step_answer hp]
      have hsession := ((after renderer period run).session.resumes p.stage outcome).session_eq
      rwa [hconsent] at hsession
  | ask now id => cases hturn
  | receive id outcome => cases hturn
  | look id => cases hturn
  | drop => cases hturn

/-- Without the daemon's consent the selected database stays, and so do the table and the tab unless
an operator chooses another. -/
theorem selection_of_move {run : List Move} {m : Move}
    (hconsent : consent? renderer period run m = none) :
    (after renderer period (run ++ [m])).session.selection =
      let selection := (after renderer period run).session.selection
      ⟨selection.database, m.table?.or selection.table, m.tab?.getD selection.tab⟩ := by
  cases m with
  | begin now action =>
    rw [after_append_singleton, step_begin]
    exact ((after renderer period run).session.begins now action).selection_eq
  | answer call outcome => rw [session_of_turn rfl hconsent rfl rfl]; rfl
  | ask now id => rw [after_append_singleton]; rfl
  | receive id outcome => rw [after_append_singleton]; rfl
  | look id => rw [after_append_singleton]; rfl
  | drop => rw [after_append_singleton]; rfl

/-- Where the daemon agrees to nothing and no operator chooses anything, the same table stays
watched. -/
theorem active_of_move {run : List Move} {m : Move}
    (hconsent : consent? renderer period run m = none) (htab : m.tab? = none)
    (hcloses : m.closes = false) :
    (after renderer period (run ++ [m])).session.live.active =
      (after renderer period run).session.live.active := by
  cases m with
  | begin now action => rw [session_of_turn rfl hconsent htab hcloses]
  | answer call outcome => rw [session_of_turn rfl hconsent htab hcloses]
  | ask now id => rw [after_append_singleton]; simp [Run.step, live]
  | receive id outcome => rw [after_append_singleton]; simp [Run.step, live]
  | look id => rw [after_append_singleton]; simp [Run.step, live]
  | drop => cases hcloses

/-! ## Whole runs -/

theorem start_selection (renderer : Renderer) (period : Nat) :
    (start renderer period).session.selection = {} := by
  unfold start withPeriod
  split <;> rfl

/-- The selected database is the one that the daemon agreed to last. -/
theorem database_eq (run : List Move) :
    (after renderer period run).session.selection.database =
      (consents renderer period run).getLast? := by
  induction run using List.reverseRecOn with
  | nil =>
    have hnone := congrArg Selection.database (start_selection renderer period)
    exact hnone
  | append_singleton run m ih =>
    rw [consents_append_singleton]
    cases hconsent : consent? renderer period run m with
    | none =>
      rw [selection_of_move hconsent]
      simpa using ih
    | some name =>
      rw [session_of_consent hconsent]
      simp [change]

/-- The open tab is the one that an operator changed to last. -/
theorem tab_eq (run : List Move) :
    (after renderer period run).session.selection.tab =
      (run.filterMap Move.tab?).getLast?.getD .query := by
  induction run using List.reverseRecOn with
  | nil =>
    have hquery := congrArg Selection.tab (start_selection renderer period)
    exact hquery
  | append_singleton run m ih =>
    cases hconsent : consent? renderer period run m with
    | none =>
      rw [selection_of_move hconsent]
      cases htab : m.tab? <;> simp [htab, ih]
    | some name =>
      rw [session_of_consent hconsent]
      obtain ⟨call, reply, rfl⟩ := exists_answer_of_consent hconsent
      simpa [change, Move.tab?] using ih

/-- Some move of a run had one property, and all moves after it have had another. -/
def Since (P Q : List Move → Move → Prop) (run : List Move) : Prop :=
  ∃ before m later, run = before ++ m :: later ∧ P before m ∧
    ∀ a m' b, later = a ++ m' :: b → Q (before ++ m :: a) m'

theorem since_append_singleton {P Q : List Move → Move → Prop} {run : List Move} {m : Move} :
    Since P Q (run ++ [m]) ↔ P run m ∨ (Since P Q run ∧ Q run m) := by
  constructor
  · rintro ⟨before, m', later, hrun, hm', hlater⟩
    obtain rfl | ⟨later, last, rfl⟩ := List.eq_nil_or_concat' later
    · obtain ⟨rfl, hm⟩ := List.append_inj' hrun rfl
      obtain rfl := List.singleton_inj.1 hm
      exact .inl hm'
    · rw [← List.cons_append, ← List.append_assoc] at hrun
      obtain ⟨rfl, hm⟩ := List.append_inj' hrun rfl
      obtain rfl := List.singleton_inj.1 hm
      refine .inr ⟨⟨before, m', later, rfl, hm', fun a m'' b hb => ?_⟩, hlater later m [] rfl⟩
      exact hlater a m'' (b ++ [m]) (by simp [hb])
  · rintro (hm | ⟨⟨before, m', later, rfl, hm', hlater⟩, hm⟩)
    · exact ⟨run, m, [], rfl, hm, fun a m' b hb => by simp at hb⟩
    · refine ⟨before, m', later ++ [m], by simp, hm', fun a m'' b hb => ?_⟩
      obtain rfl | ⟨b, last, rfl⟩ := List.eq_nil_or_concat' b
      · obtain ⟨rfl, hlast⟩ := List.append_inj' hb rfl
        obtain rfl := List.singleton_inj.1 hlast
        exact hm
      · rw [← List.cons_append, ← List.append_assoc] at hb
        obtain ⟨rfl, _⟩ := List.append_inj' hb rfl
        exact hlater a m'' b rfl

/-- A table is selected by its name; it stays selected until another one is, or the daemon agrees to
change the database. -/
theorem table_eq_some_iff {run : List Move} {name : String} :
    (after renderer period run).session.selection.table = some name ↔
      Since (fun _ m => m.table? = some name)
        (fun before m => m.table? = none ∧ consent? renderer period before m = none) run := by
  induction run using List.reverseRecOn with
  | nil =>
    have hnone := congrArg Selection.table (start_selection renderer period)
    refine iff_of_false (fun h => ?_) ?_
    · cases hnone.symm.trans h
    · rintro ⟨before, m, later, hrun, _⟩
      simp at hrun
  | append_singleton run m ih =>
    rw [since_append_singleton, ← ih]
    cases hconsent : consent? renderer period run m with
    | none =>
      rw [selection_of_move hconsent]
      cases htable : m.table? <;> simp
    | some name =>
      rw [session_of_consent hconsent]
      obtain ⟨call, reply, rfl⟩ := exists_answer_of_consent hconsent
      simp [change, Move.table?]

/-- What may change the selection in a run, and when. -/
structure Governed (renderer : Renderer) (period : Nat) (run : List Move) : Prop where
  /-- the selected database is the one that the daemon agreed to last -/
  database : (after renderer period run).session.selection.database =
    (consents renderer period run).getLast?
  /-- the selected table was selected by its name, and the daemon has agreed to no change since -/
  table : ∀ name, (after renderer period run).session.selection.table = some name ↔
    Since (fun _ m => m.table? = some name)
      (fun before m => m.table? = none ∧ consent? renderer period before m = none) run
  /-- the open tab is the one that an operator changed to last -/
  tab : (after renderer period run).session.selection.tab =
    (run.filterMap Move.tab?).getLast?.getD .query
  /-- when the daemon agrees, the database is selected, no table is, and none is watched -/
  agreed : ∀ m name, consent? renderer period run m = some name →
    (after renderer period (run ++ [m])).session.selection =
        { (after renderer period run).session.selection with database := some name, table := none } ∧
      (after renderer period (run ++ [m])).session.live.active = none
  /-- otherwise the database stays, and the table and the tab are what an operator chooses -/
  kept : ∀ m, consent? renderer period run m = none →
    (after renderer period (run ++ [m])).session.selection =
      let selection := (after renderer period run).session.selection
      ⟨selection.database, m.table?.or selection.table, m.tab?.getD selection.tab⟩
  /-- and unless an operator chooses something, the subscription stays -/
  watched : ∀ m, consent? renderer period run m = none → m.tab? = none → m.closes = false →
    (after renderer period (run ++ [m])).session.live.active =
      (after renderer period run).session.live.active
  /-- a turn of a call in which neither happens changes nothing of the session -/
  untouched : ∀ m, m.isTurn = true → consent? renderer period run m = none → m.tab? = none →
    m.closes = false →
    (after renderer period (run ++ [m])).session = (after renderer period run).session

end Run

end Session

/-- At every moment of every run, with any number of calls under way: the selected database is the
one that the daemon agreed to last, the selected table is the one that was selected last unless the
daemon has agreed to a change since, and the open tab is the one that was changed to last. When the
daemon agrees to a change of the database, then in the same step no table is selected any more and
the subscription is handed back. Nothing else that comes of a call touches the session, except that
an operator selects a table, changes to a tab or ends the live view. -/
theorem selection_changes_by_consent (renderer : Renderer) (period : Nat)
    (run : List Session.Move) : Session.Run.Governed renderer period run where
  database := Session.Run.database_eq run
  table _ := Session.Run.table_eq_some_iff
  tab := Session.Run.tab_eq run
  agreed m name h := by
    rw [Session.Run.session_of_consent h]
    exact ⟨rfl, rfl⟩
  kept _ := Session.Run.selection_of_move
  watched _ := Session.Run.active_of_move
  untouched _ := Session.Run.session_of_turn

/-- The daemon agrees to one change and refuses the other; its answer about the tables makes no
difference. -/
example :
    let run : List Session.Move := [.begin 0 (.use "shop"), .begin 0 (.use " hr "),
      .answer 1 (.ok (.tabular [])), .answer 1 (.error (.http "timed out")),
      .answer 0 (.ok (.failure "no such database"))]
    Session.Run.consents .html 0 run = ["hr"] ∧
      (Session.Run.after .html 0 run).session.selection.database = some "hr" := by
  decide +kernel

end QueryConsole
