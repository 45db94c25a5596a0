import Mathlib.Data.List.Perm.Basic
import QueryConsole.Proofs.Session.Consent
import QueryConsole.Proofs.Session.Sources

/-!
# The list of tables and the selected database

A call that changes the database writes twice, and suspends in between: the selection when the
daemon has agreed to the change, and the list of tables when their names are there. With several
calls under way nothing keeps the second writes in the order of the first ones. What is certain is
that every change is followed by a listing of its own, sooner or later. The panel shows the tables
of the database whose listing arrived last; the selected database is the one whose change was agreed
to last.

## Main definitions

- `Session.Run.listings`: the databases whose tables are listed in a run, in order
- `Session.Run.Served`: all calls change to databases and succeed, and are told the right tables

## Main results

- `Session.Run.Served.balance`: every change is listed, or its listing is still awaited
- `Session.Run.Served.in_turn`: listings that do not overlap arrive in the order of the changes
- `table_list_shows_last_listed`: what the list of tables shows, and when it is the selection's
-/

namespace QueryConsole

namespace Session

/-- The database whose tables an answer lists, in a call that has changed to it. -/
def Answered.listed? (a : Answered) : Option String :=
  match a.action with
  | .use name => if a.query = "\\dt" then some (Text.trim name) else none
  | _ => none

/-- The tables that a reply names in rows. -/
def Answered.rowNames? (a : Answered) : Option (List String) :=
  match a.reply with
  | .tabular rows => some (rows.filterMap Row.label)
  | _ => none

/-- Whether a call is one that changes the database. -/
def Action.isUse : Action → Bool
  | .use _ => true
  | _ => false

theorem Action.isUse_iff {action : Action} : action.isUse = true ↔ ∃ name, action = .use name := by
  cases action <;> simp [isUse]

/-- The database whose tables a call waits for in a stage, after it has changed to it. -/
def Action.awaits : Action → Stage → Option String
  | .use name, .tables => some (Text.trim name)
  | _, _ => none

/-- The databases whose tables some of the begun calls wait for, after they have changed to them. -/
def waitingFor (begun : List Action) (pending : List Pending) : List String :=
  pending.filterMap fun p => begun[p.call]?.bind (·.awaits p.stage)

theorem waitingFor_append (begun : List Action) (a b : List Pending) :
    waitingFor begun (a ++ b) = waitingFor begun a ++ waitingFor begun b :=
  List.filterMap_append

theorem waitingFor_cons (begun : List Action) (p : Pending) (pending : List Pending) :
    waitingFor begun (p :: pending) =
      (begun[p.call]?.bind (·.awaits p.stage)).toList ++ waitingFor begun pending := by
  cases h : begun[p.call]?.bind (·.awaits p.stage) <;> simp [waitingFor, h]

/-- Calls that are begun later make no difference to those that wait. -/
theorem waitingFor_begun {begun later : List Action} {pending : List Pending}
    (h : ∀ p ∈ pending, p.call < begun.length) :
    waitingFor (begun ++ later) pending = waitingFor begun pending := by
  apply List.filterMap_congr
  intro p hp
  rw [List.getElem?_append_left (h p hp)]

theorem Action.HasStage.listed?_eq {action : Action} {stage : Stage} (h : action.HasStage stage)
    (call : Nat) (database : Option String) (reply : Reply) :
    Answered.listed? ⟨call, action, stage.query, database, reply⟩ = action.awaits stage := by
  cases h with
  | answer => rfl
  | creation => rfl
  | created => rfl
  | listing => rfl
  | change => simp [Answered.listed?, Action.awaits, change_query_ne]
  | changed => rfl
  | tables => rfl

/-- A call that changes the database and does not fail goes from the change to the listing, and from
the listing to its end. -/
theorem Resumes.of_use {s : Session} {stage : Stage} {outcome : Outcome} {t : Turn}
    (h : Resumes s stage outcome t) {name : String} (hstage : (Action.use name).HasStage stage)
    (hsucceeds : ∀ result, t.progress = .finished result → result.isOk = true) :
    ∃ reply, outcome = .ok reply ∧
      ((stage = .change (Text.trim name) ∧ stage.database? outcome = some (Text.trim name) ∧
          t.progress = .waiting .tables) ∨
        (stage = .tables ∧ ∃ result, t.progress = .finished result)) := by
  cases hstage with
  | change =>
    cases h with
    | unanswered => cases hsucceeds _ rfl
    | reported hanswer hlisting => cases hsucceeds _ rfl
    | @changed _ reply haccepted =>
      exact ⟨reply, rfl, .inl ⟨rfl, by simp [Stage.database?, haccepted], rfl⟩⟩
  | changed =>
    cases h with
    | unanswered => cases hsucceeds _ rfl
    | reported hanswer hlisting => cases hsucceeds _ rfl
    | @named reply names hnames => exact ⟨reply, rfl, .inr ⟨rfl, _, rfl⟩⟩

namespace Run

variable {renderer : Renderer} {period : Nat} {tables : String → List String} {run : List Move}

/-- The database whose tables are listed in a move after a run from the beginning. -/
def listing? (renderer : Renderer) (period : Nat) (run : List Move) (m : Move) : Option String :=
  ((happening? renderer period run m).bind Happening.answered?).bind Answered.listed?

/-- The databases whose tables are listed in a run, by the calls that have changed to them, in
order. -/
def listings (renderer : Renderer) (period : Nat) (run : List Move) : List String :=
  (answers renderer period run).filterMap Answered.listed?

/-- The databases that calls have changed to and whose tables they still wait for. -/
def awaited (renderer : Renderer) (period : Nat) (run : List Move) : List String :=
  waitingFor (actions run) (after renderer period run).pending

/-- All calls of a run change to databases, those that have ended have succeeded, and what the
daemon tells a call about tables are the ones of the database that the call itself has changed to,
in rows. -/
structure Served (tables : String → List String) (renderer : Renderer) (period : Nat)
    (run : List Move) : Prop where
  changes : ∀ action ∈ actions run, action.isUse = true
  succeed : ∀ result ∈ results (seen renderer period run), result.isOk = true
  told : ∀ a ∈ answers renderer period run, ∀ name ∈ a.listed?, a.rowNames? = some (tables name)

theorem Served.init {m : Move} (h : Served tables renderer period (run ++ [m])) :
    Served tables renderer period run where
  changes action ha := by
    apply h.changes action
    rw [actions_append]
    exact List.mem_append_left _ ha
  succeed result hr := by
    apply h.succeed result
    rw [seen_append_singleton, results_append]
    exact List.mem_append_left _ hr
  told a ha := by
    apply h.told a
    rw [answers_append_singleton]
    exact List.mem_append_left _ ha

/-! ## Every change is listed -/

theorem listings_append_singleton (run : List Move) (m : Move) :
    listings renderer period (run ++ [m]) =
      listings renderer period run ++ (listing? renderer period run m).toList :=
  answers_filterMap_append_singleton Answered.listed? run m

/-- A reply to a waiting call lists the tables that the call waits for. -/
theorem listing?_answer {p : Pending} {action : Action} (reply : Reply)
    (hp : (after renderer period run).pending.find? (·.call == p.call) = some p)
    (haction : (actions run)[p.call]? = some action) (hstage : action.HasStage p.stage) :
    listing? renderer period run (.answer p.call (.ok reply)) = action.awaits p.stage := by
  have hasked := asked?_seen renderer period run p.call
  rw [hp, Option.map_some] at hasked
  rw [← hstage.listed?_eq p.call (after renderer period run).session.selection.database reply]
  simp [listing?, happening?, haction, hasked, Happening.answered?]

theorem listing?_eq_none {m : Move} (h : ∀ call, m.answers call = false) :
    listing? renderer period run m = none := by
  rw [listing?, answered?_eq_none h, Option.bind_none]

theorem consent?_eq_none {m : Move} (h : ∀ call, m.answers call = false) :
    consent? renderer period run m = none := by
  rw [consent?, answered?_eq_none h, Option.bind_none]

theorem listing?_answer_none {call : Nat} {outcome : Outcome}
    (h : (after renderer period run).pending.find? (·.call == call) = none) :
    listing? renderer period run (.answer call outcome) = none := by
  have hasked := asked?_seen renderer period run call
  rw [h, Option.map_none] at hasked
  cases outcome <;> simp [listing?, happening?, hasked]

/-- The calls that wait, with one of them put first. -/
theorem perm_of_mem {begun : List Action} {r : Run} (h : Orderly begun r) {p : Pending}
    (hp : p ∈ r.pending) : r.pending.Perm (p :: r.pending.filter (·.call != p.call)) := by
  have hsame : r.pending.filter (·.call == p.call) = [p] := by
    have hnodup := h.distinct.of_map.filter (·.call == p.call)
    refine List.perm_singleton.1 ((List.perm_ext_iff_of_nodup hnodup (List.nodup_singleton p)).2 ?_)
    intro q
    rw [List.mem_filter, List.mem_singleton, beq_iff_eq]
    constructor
    · rintro ⟨hq, hcall⟩
      exact h.eq_of_call hq hp hcall
    · rintro rfl
      exact ⟨hp, rfl⟩
  have hsplit := List.filter_append_perm (·.call == p.call) r.pending
  rw [hsame] at hsplit
  exact hsplit.symm

theorem awaited_of_pending {m : Move} (haction : m.action? = none)
    (hpending : ((after renderer period run).step m).1.pending =
      (after renderer period run).pending) :
    awaited renderer period (run ++ [m]) = awaited renderer period run := by
  have hactions : actions (run ++ [m]) = actions run := by simp [actions, haction]
  rw [awaited, awaited, hactions, after_append_singleton, hpending]

/-- A call that begins waits for no tables: first it has to change to their database. -/
theorem awaited_begin {now : Nat} {action : Action} (hchanges : ∃ name, action = .use name) :
    awaited renderer period (run ++ [.begin now action]) = awaited renderer period run := by
  obtain ⟨name, rfl⟩ := hchanges
  have horderly := (Orderly.start renderer period).exec run
  have hcounted : (after renderer period run).begun = (actions run).length := horderly.counted
  have hactions : actions (run ++ [.begin now (.use name)]) = actions run ++ [.use name] := by
    simp [actions, Move.action?]
  have hold : ∀ p ∈ (after renderer period run).pending, p.call < (actions run).length := by
    intro p hp
    rw [← hcounted]
    exact horderly.call_lt hp
  have hnew : waitingFor (actions run ++ [.use name])
      (((after renderer period run).session.begin now (.use name)).pending
        (after renderer period run).begun) = [] := by
    apply List.filterMap_eq_nil_iff.2
    intro p hp
    obtain ⟨stage, hwaits, rfl⟩ := (Turn.mem_pending _ _).1 hp
    have hstage := ((after renderer period run).session.begins now (.use name)).stage_eq hwaits
    have hchange : stage = .change (Text.trim name) := by simpa [Action.stages] using hstage.symm
    simp [hchange, hcounted, Action.awaits]
  rw [awaited, hactions, after_append_singleton, step_begin, waitingFor_append, hnew,
    List.append_nil]
  exact waitingFor_begun hold

/-- When an outcome arrives for a call, then the change is agreed to and its listing awaited, or the
listing arrives that was awaited. -/
theorem Served.balance_answer {p : Pending} {outcome : Outcome}
    (h : Served tables renderer period (run ++ [.answer p.call outcome]))
    (hp : p ∈ (after renderer period run).pending) :
    ((consent? renderer period run (.answer p.call outcome)).toList ++
        awaited renderer period run).Perm
      ((listing? renderer period run (.answer p.call outcome)).toList ++
        awaited renderer period (run ++ [.answer p.call outcome])) := by
  have horderly := (Orderly.start renderer period).exec run
  have hfind : (after renderer period run).pending.find? (·.call == p.call) = some p :=
    horderly.find hp
  obtain ⟨action, k, haction, hk⟩ := horderly.staged p hp
  rw [List.nil_append] at haction
  have hstage : action.HasStage p.stage := Action.hasStage hk
  obtain ⟨name, rfl⟩ := Action.isUse_iff.1 (h.init.changes action (List.mem_of_getElem? haction))
  have hactions : actions (run ++ [.answer p.call outcome]) = actions run := by
    simp [actions, Move.action?]
  have hsucceeds : ∀ result,
      ((after renderer period run).session.resume p.stage outcome).progress = .finished result →
        result.isOk = true := by
    intro result hresult
    apply h.succeed result
    rw [seen_append_singleton, results_append, step_answer hfind, Turn.results_events, hresult]
    exact List.mem_append_right _ (List.mem_singleton_self _)
  obtain ⟨reply, rfl, hturn⟩ :=
    ((after renderer period run).session.resumes p.stage outcome).of_use hstage hsucceeds
  have hlisting := listing?_answer reply hfind haction hstage
  have hconsent : consent? renderer period run (.answer p.call (.ok reply)) =
      p.stage.database? (.ok reply) := by
    rw [consent?_answer, hfind, Option.bind_some]
  -- without the call that goes on, the same calls wait before and after
  let others := waitingFor (actions run)
    ((after renderer period run).pending.filter (·.call != p.call))
  have hbefore : (awaited renderer period run).Perm
      ((Action.awaits (.use name) p.stage).toList ++ others) := by
    have hperm := (perm_of_mem horderly hp).filterMap
      fun p => (actions run)[p.call]?.bind (·.awaits p.stage)
    change (awaited renderer period run).Perm (waitingFor (actions run) (p :: _)) at hperm
    rwa [waitingFor_cons, haction, Option.bind_some] at hperm
  have hafter : awaited renderer period (run ++ [.answer p.call (.ok reply)]) = others ++
      waitingFor (actions run)
        (((after renderer period run).session.resume p.stage (.ok reply)).pending p.call) := by
    rw [awaited, hactions, after_append_singleton, step_answer hfind, waitingFor_append]
  rw [hconsent, hlisting, hafter]
  obtain ⟨hchange, hdatabase, hwaits⟩ | ⟨htables, result, hfinished⟩ := hturn
  · rw [hdatabase]
    rw [hchange] at hbefore ⊢
    simp only [Turn.pending, hchange ▸ hwaits, waitingFor_cons, haction]
    have hfront : (Text.trim name :: others).Perm (others ++ [Text.trim name]) :=
      (List.perm_append_singleton _ _).symm
    exact (hbefore.cons _).trans hfront
  · rw [htables] at hbefore ⊢
    rw [Turn.pending_eq_nil _ _ (by simp [htables ▸ hfinished])]
    simpa [Stage.database?, waitingFor, Action.awaits] using hbefore

theorem Served.balance_step {m : Move} (h : Served tables renderer period (run ++ [m])) :
    ((consent? renderer period run m).toList ++ awaited renderer period run).Perm
      ((listing? renderer period run m).toList ++ awaited renderer period (run ++ [m])) := by
  cases m with
  | begin now action =>
    have hchanges : ∃ name, action = .use name := by
      apply Action.isUse_iff.1
      apply h.changes action
      simp [actions, Move.action?]
    rw [consent?_eq_none fun _ => rfl, listing?_eq_none fun _ => rfl, awaited_begin hchanges]
  | answer call outcome =>
    cases hp : (after renderer period run).pending.find? (·.call == call) with
    | none =>
      have hconsent : consent? renderer period run (.answer call outcome) = none := by
        rw [consent?_answer, hp, Option.bind_none]
      rw [hconsent, listing?_answer_none hp, awaited_of_pending rfl (by rw [step_answer_none hp])]
    | some p =>
      obtain ⟨hmem, rfl⟩ := find_some hp
      exact h.balance_answer hmem
  | ask now id =>
    rw [consent?_eq_none fun _ => rfl, listing?_eq_none fun _ => rfl, awaited_of_pending rfl rfl]
  | receive id outcome =>
    rw [consent?_eq_none fun _ => rfl, listing?_eq_none fun _ => rfl, awaited_of_pending rfl rfl]
  | look id =>
    rw [consent?_eq_none fun _ => rfl, listing?_eq_none fun _ => rfl, awaited_of_pending rfl rfl]
  | drop =>
    rw [consent?_eq_none fun _ => rfl, listing?_eq_none fun _ => rfl, awaited_of_pending rfl rfl]

/-- Every change that was agreed to is listed, or its listing is still awaited. -/
theorem Served.balance (h : Served tables renderer period run) :
    (consents renderer period run).Perm
      (listings renderer period run ++ awaited renderer period run) := by
  induction run using List.reverseRecOn with
  | nil => exact List.Perm.refl []
  | append_singleton run m ih =>
    rw [consents_append_singleton, listings_append_singleton]
    have hearlier := (ih h.init).append_right (consent? renderer period run m).toList
    rw [List.append_assoc] at hearlier ⊢
    have hmove := (List.perm_append_comm.trans h.balance_step).append_left
      (listings renderer period run)
    exact hearlier.trans hmove

/-- No change is agreed to while the tables of another database are still awaited. -/
def InTurn (renderer : Renderer) (period : Nat) (run : List Move) : Prop :=
  ∀ before m later, run = before ++ m :: later → consent? renderer period before m ≠ none →
    awaited renderer period before = []

theorem InTurn.init {m : Move} (h : InTurn renderer period (run ++ [m])) :
    InTurn renderer period run := by
  intro before m' later hrun hconsent
  exact h before m' (later ++ [m]) (by simp [hrun]) hconsent

theorem eq_of_perm {l l' : List String} (h : l.Perm l') (hfew : l.length ≤ 1) : l = l' := by
  match l, hfew with
  | [], _ => exact h.nil_eq
  | [name], _ => exact h.singleton_eq

/-- Then the listings arrive in the order of the changes. At any time one listing is awaited at
most, so that there is nothing to rearrange. -/
theorem Served.in_turn (h : Served tables renderer period run)
    (hturn : InTurn renderer period run) :
    consents renderer period run =
        listings renderer period run ++ awaited renderer period run ∧
      (awaited renderer period run).length ≤ 1 := by
  induction run using List.reverseRecOn with
  | nil => exact ⟨rfl, Nat.zero_le 1⟩
  | append_singleton run m ih =>
    obtain ⟨hearlier, hone⟩ := ih h.init hturn.init
    have hmove := h.balance_step
    have hfew : ((consent? renderer period run m).toList ++
        awaited renderer period run).length ≤ 1 := by
      cases hconsent : consent? renderer period run m with
      | none => simpa using hone
      | some name =>
        rw [hturn run m [] rfl (by simp [hconsent])]
        exact Nat.le_refl 1
    have hsame := eq_of_perm hmove hfew
    have hcomm := eq_of_perm List.perm_append_comm hfew
    constructor
    · rw [consents_append_singleton, listings_append_singleton, hearlier, List.append_assoc,
        List.append_assoc, ← hcomm, hsame]
    · rw [hsame, List.length_append] at hfew
      omega

/-! ## What the panel shows -/

theorem action_mem_of_answered {a : Answered} (h : a ∈ answers renderer period run) :
    a.action ∈ actions run := by
  induction run using List.reverseRecOn with
  | nil => cases h
  | append_singleton run m ih =>
    rw [actions_append]
    apply List.mem_append_left
    rw [answers_append_singleton] at h
    obtain h | h := List.mem_append.1 h
    · exact ih h
    · obtain ⟨what, hwhat, ha⟩ := Option.bind_eq_some_iff.1 (Option.mem_toList.1 h)
      cases what with
      | answered a' =>
        cases ha
        exact List.mem_of_getElem? (eq_of_answered hwhat).2.1
      | refused reason => cases ha
      | unreached e => cases ha
      | polled outcome => cases ha

/-- The list of tables shows what is listed, one listing after the other. -/
theorem Served.history_tables (h : Served tables renderer period run) :
    history .tables (shown renderer period run) =
      (listings renderer period run).map fun name => .list (tables name) := by
  have hhistory : history .tables (shown renderer period run) =
      (answers renderer period run).filterMap Answered.tables? := history_answers (fun _ => rfl) run
  rw [hhistory, listings, List.map_filterMap]
  apply List.filterMap_congr
  intro a ha
  obtain ⟨name, haction⟩ := Action.isUse_iff.1 (h.changes a.action (action_mem_of_answered ha))
  by_cases hquery : a.query = "\\dt"
  · have hlisted : a.listed? = some (Text.trim name) := by simp [Answered.listed?, haction, hquery]
    have htold : a.rowNames? = some (tables (Text.trim name)) := h.told a ha _ hlisted
    cases hreply : a.reply with
    | tabular rows =>
      have hrows : rows.filterMap Row.label = tables (Text.trim name) := by
        simpa [Answered.rowNames?, hreply] using htold
      simp [hlisted, Answered.tables?, Answered.listsTables, haction, hquery, hreply, hrows]
    | listing databases => simp [Answered.rowNames?, hreply] at htold
    | failure message => simp [Answered.rowNames?, hreply] at htold
  · simp [Answered.listed?, Answered.tables?, Answered.listsTables, haction, hquery]

theorem Served.current_tables (h : Served tables renderer period run) :
    current .tables (shown renderer period run) =
      (listings renderer period run).getLast?.map fun name => .list (tables name) := by
  rw [current, h.history_tables, List.getLast?_map]

end Run

end Session

/-- When any number of calls have changed the database and all have succeeded, each of them told the
tables of its own database whenever that may be, then every change was listed once. The selected
database is the one whose change was agreed to last, but the list of tables shows the ones of the
database whose listing arrived last: it shows the tables of the selected database exactly if the
listings ended with a database of the same tables as the changes did, and it does so if no change
was agreed to while another listing was awaited. -/
theorem table_list_shows_last_listed {tables : String → List String} {renderer : Renderer}
    {period : Nat} {run : List Session.Move}
    (hserved : Session.Run.Served tables renderer period run)
    (hidle : (Session.Run.after renderer period run).pending = []) :
    let selected := (Session.Run.after renderer period run).session.selection.database
    let shown := Session.current .tables (Session.Run.shown renderer period run)
    let consents := Session.Run.consents renderer period run
    let listings := Session.Run.listings renderer period run
    consents.Perm listings ∧ selected = consents.getLast? ∧
      shown = (listings.getLast?.map fun name => .list (tables name)) ∧
      (shown = (selected.map fun name => .list (tables name)) ↔
        listings.getLast?.map tables = consents.getLast?.map tables) ∧
      (Session.Run.InTurn renderer period run →
        shown = selected.map fun name => .list (tables name)) := by
  intro selected shown consents listings
  have hselected : selected = consents.getLast? := Session.Run.database_eq run
  have hshown : shown = (listings.getLast?.map fun name => .list (tables name)) :=
    hserved.current_tables
  have hawaited : Session.Run.awaited renderer period run = [] := by
    rw [Session.Run.awaited, hidle, Session.waitingFor, List.filterMap_nil]
  have hperm : consents.Perm listings := by
    have hbalance := hserved.balance
    rwa [hawaited, List.append_nil] at hbalance
  refine ⟨hperm, hselected, hshown, ?_, ?_⟩
  · rw [hshown, hselected]
    cases listings.getLast? <;> cases consents.getLast? <;> simp
  · intro hturn
    have hsame : consents = listings := by
      have hlisted := (hserved.in_turn hturn).1
      rwa [hawaited, List.append_nil] at hlisted
    rw [hshown, hselected, hsame]

/-- Two calls that overlap, each answered in its turn. -/
theorem table_list_shows_last_listed_in_turn :
    let run : List Session.Move := [.begin 0 (.use "shop"), .begin 0 (.use "hr"),
      .answer 1 (.ok (.tabular [])), .answer 0 (.ok (.tabular [])),
      .answer 1 (.ok (.tabular [.text "staff"])), .answer 0 (.ok (.tabular [.text "orders"]))]
    (Session.Run.after .text 0 run).session.selection.database = some "shop" ∧
      Session.current .tables (Session.Run.shown .text 0 run) = some (.list ["orders"]) := by
  intro run
  have hserved : Session.Run.Served (fun name => if name = "shop" then ["orders"] else ["staff"])
      .text 0 run := ⟨by decide +kernel, by decide +kernel, by decide +kernel⟩
  have hidle : (Session.Run.after .text 0 run).pending = [] := by decide +kernel
  have hconsents : Session.Run.consents .text 0 run = ["hr", "shop"] := by decide +kernel
  have hlistings : Session.Run.listings .text 0 run = ["hr", "shop"] := by decide +kernel
  obtain ⟨_, hselected, hshown, _, _⟩ := table_list_shows_last_listed hserved hidle
  rw [hconsents] at hselected
  rw [hlistings] at hshown
  exact ⟨hselected, hshown⟩

/-- The list of tables need not follow the selection: of two calls the one that changes the database
first may be the one whose tables arrive last. -/
theorem table_list_left_behind :
    ¬∀ (tables : String → List String) (renderer : Renderer) (period : Nat)
      (run : List Session.Move), Session.Run.Served tables renderer period run →
      (Session.Run.after renderer period run).pending = [] →
      ∀ name, (Session.Run.after renderer period run).session.selection.database = some name →
        Session.current .tables (Session.Run.shown renderer period run) =
          some (.list (tables name)) := by
  intro h
  let run : List Session.Move := [.begin 0 (.use "shop"), .begin 0 (.use "hr"),
    .answer 0 (.ok (.tabular [])), .answer 1 (.ok (.tabular [])),
    .answer 1 (.ok (.tabular [.text "staff"])), .answer 0 (.ok (.tabular [.text "orders"]))]
  have hserved : Session.Run.Served (fun name => if name = "shop" then ["orders"] else ["staff"])
      .text 0 run := ⟨by decide +kernel, by decide +kernel, by decide +kernel⟩
  have hidle : (Session.Run.after .text 0 run).pending = [] := by decide +kernel
  have hselected : (Session.Run.after .text 0 run).session.selection.database = some "hr" := by
    decide +kernel
  have hshown : Session.current .tables (Session.Run.shown .text 0 run) =
      some (.list ["orders"]) := by
    decide +kernel
  have hfollows := h _ .text 0 run hserved hidle "hr" hselected
  rw [hshown] at hfollows
  revert hfollows
  decide +kernel

end QueryConsole
