import QueryConsole.Proofs.Graph.Nodes
import QueryConsole.Proofs.Session.Calls
import QueryConsole.Proofs.Session.LivePanel

/-!
# Where the panels come from

Everything that a panel ever shows comes from one of four things that happen in a run: input is
refused, a query does not reach the daemon, the reply to a query arrives, or a poller looks at its
answer. Each of them is known by what an operator can see, the action of a call and the text of its
query, and decides alone which panels are updated with what.

## Main definitions

- `Session.Answered`: a query of a call that got a reply
- `Session.Happening`: what can lead to updates
- `Session.history`, `Session.current`: what a panel showed, and what it shows now

## Main results

- `Session.Run.updates_exec`: the updates of a run are those of its happenings, one after another
-/

namespace QueryConsole

namespace Session

/-! ## Answered queries -/

/-- A query of a call that got a reply, and the database that was selected when it got it. -/
structure Answered where
  call : Nat
  action : Action
  query : String
  database : Option String
  reply : Reply

namespace Answered

/-- Whether an operator's own statement is answered. -/
def isQuery (a : Answered) : Bool :=
  match a.action with
  | .query _ => true
  | _ => false

/-- Whether the databases were asked for, to be listed and drawn. -/
def listsDatabases (a : Answered) : Bool :=
  match a.action with
  | .refresh | .create _ => a.query == "\\dc"
  | _ => false

/-- Whether the tables of the selected database were asked for. -/
def listsTables (a : Answered) : Bool :=
  match a.action with
  | .tables | .use _ => a.query == "\\dt"
  | _ => false

/-- The tables of the first database of a name. -/
def tablesOf (databases : List Database) : Option String → List String
  | none => []
  | some name =>
    match databases.find? (·.name == name) with
    | none => []
    | some d => d.tables

/-- What the results panel shows of a reply, if the renderer returns. -/
def result? (renderer : Renderer) (a : Answered) : Option Presentation :=
  if a.isQuery then renderer.render a.reply else none

/-- What the graph panel shows of a reply. -/
def graph? (a : Answered) : Option Presentation :=
  if a.listsDatabases then some (Renderer.drawn a.reply) else none

/-- What the list of databases shows of a reply. -/
def databases? (a : Answered) : Option Presentation :=
  if a.listsDatabases then
    match a.reply with
    | .listing databases => some (.list (databases.map Database.name))
    | _ => none
  else none

/-- What the list of tables shows of a reply. -/
def tables? (a : Answered) : Option Presentation :=
  if a.listsTables then
    match a.reply with
    | .tabular rows => some (.list (rows.filterMap Row.label))
    | .listing databases => some (.list (tablesOf databases a.database))
    | .failure _ => none
  else none

/-- What the notice panel shows of a reply: a failure that is neither a result nor stands in place
of a graph. -/
def notice? (a : Answered) : Option Presentation :=
  if a.isQuery || a.listsDatabases then none
  else
    match a.reply with
    | .failure message => some (.error message)
    | _ => none

/-- All updates that a reply leads to, in order. -/
def updates (renderer : Renderer) (a : Answered) : List Update :=
  (a.result? renderer).toList.map (Prod.mk .results) ++
    a.graph?.toList.map (Prod.mk .graph) ++ a.databases?.toList.map (Prod.mk .databases) ++
    a.tables?.toList.map (Prod.mk .tables) ++ a.notice?.toList.map (Prod.mk .notice)

end Answered

/-! ## Happenings -/

/-- What can lead to updates. -/
inductive Happening
  /-- the input of an operator is refused -/
  | refused (reason : String)
  /-- a query of a call does not reach the daemon -/
  | unreached (e : Error)
  /-- a query of a call is answered -/
  | answered (a : Answered)
  /-- the poller of the active subscription looks at what came of its query -/
  | polled (outcome : Outcome)

namespace Happening

/-- The updates that a happening leads to, in order. -/
def updates (renderer : Renderer) : Happening → List Update
  | .refused reason => [(.notice, .error reason)]
  | .unreached e => [(.notice, e.notice)]
  | .answered a => a.updates renderer
  | .polled outcome => (outcome.shown renderer).toList.map (Prod.mk .live)

def answered? : Happening → Option Answered
  | .answered a => some a
  | _ => none

def polled? : Happening → Option Outcome
  | .polled outcome => some outcome
  | _ => none

/-- The message that a happening leads to. -/
def notice? : Happening → Option Presentation
  | .refused reason => some (.error reason)
  | .unreached e => some e.notice
  | .answered a => a.notice?
  | .polled _ => none

end Happening

/-! ## Panels -/

/-- What a panel showed in a list of updates, the latest last. -/
def history (panel : Panel) (shown : List Update) : List Presentation :=
  shown.filterMap fun u => if u.1 = panel then some u.2 else none

/-- What a panel shows after a list of updates. -/
def current (panel : Panel) (shown : List Update) : Option Presentation :=
  (history panel shown).getLast?

/-! ## The updates of one move -/

-- both statements are longer than what a listing is asked for with
theorem creation_query_ne (name : String) : (Stage.creation name).query ≠ "\\dc" := by
  intro h
  have hlength : ("CREATE DATABASE " ++ name ++ ";").length = "\\dc".length :=
    congrArg String.length h
  rw [String.length_append, String.length_append] at hlength
  have hlong : "CREATE DATABASE ".length = 16 := rfl
  have hshort : "\\dc".length = 3 := rfl
  omega

theorem change_query_ne (name : String) : (Stage.change name).query ≠ "\\dt" := by
  intro h
  have hlength : ("USE " ++ name ++ ";").length = "\\dt".length := congrArg String.length h
  rw [String.length_append, String.length_append] at hlength
  have hlong : "USE ".length = 4 := rfl
  have hshort : "\\dt".length = 3 := rfl
  omega

namespace Answered

variable {a : Answered} {renderer : Renderer}

theorem not_of_listsDatabases (a : Answered) (h : a.listsDatabases = true) :
    a.isQuery = false ∧ a.listsTables = false := by
  obtain ⟨call, action, query, database, reply⟩ := a
  cases action with
  | create name => exact ⟨rfl, rfl⟩
  | refresh => exact ⟨rfl, rfl⟩
  | _ => cases h

theorem updates_of_isQuery (hq : a.isQuery = true) (hd : a.listsDatabases = false)
    (ht : a.listsTables = false) :
    a.updates renderer = (renderer.render a.reply).toList.map (Prod.mk .results) := by
  simp [updates, result?, graph?, databases?, tables?, notice?, hq, hd, ht]

theorem updates_of_listsDatabases (hq : a.isQuery = false) (hd : a.listsDatabases = true)
    (ht : a.listsTables = false) :
    a.updates renderer = (.graph, Renderer.drawn a.reply) ::
      match a.reply with
      | .listing databases => [(.databases, .list (databases.map Database.name))]
      | _ => [] := by
  cases hr : a.reply <;>
    simp [updates, result?, graph?, databases?, tables?, notice?, hq, hd, ht, hr]

theorem updates_of_listsTables (hq : a.isQuery = false) (hd : a.listsDatabases = false)
    (ht : a.listsTables = true) :
    a.updates renderer =
      match a.reply with
      | .tabular rows => [(.tables, .list (rows.filterMap Row.label))]
      | .listing databases => [(.tables, .list (tablesOf databases a.database))]
      | .failure message => [(.notice, .error message)] := by
  cases hr : a.reply <;>
    simp [updates, result?, graph?, databases?, tables?, notice?, hq, hd, ht, hr]

theorem updates_of_statement (hq : a.isQuery = false) (hd : a.listsDatabases = false)
    (ht : a.listsTables = false) :
    a.updates renderer =
      match a.reply with
      | .failure message => [(.notice, .error message)]
      | _ => [] := by
  cases hr : a.reply <;>
    simp [updates, result?, graph?, databases?, tables?, notice?, hq, hd, ht, hr]

end Answered

theorem find?_selected (selected : Option String) (databases : List Database) :
    ((databases.find? fun d => some d.name = selected).map Database.tables).getD [] =
      Answered.tablesOf databases selected := by
  cases selected with
  | none =>
    have hnone : databases.find? (fun d => decide (some d.name = none)) = none :=
      List.find?_eq_none.2 fun d _ => by simp
    rw [hnone]
    rfl
  | some name =>
    have hsame : (fun d : Database => decide (some d.name = some name)) =
        fun d => d.name == name := by
      funext d
      simp [beq_eq_decide]
    simp only [Answered.tablesOf, hsame]
    cases databases.find? (·.name == name) <;> rfl

theorem Answered.updates_of_named {a : Answered} {renderer : Renderer} {names : List String}
    (hq : a.isQuery = false) (hd : a.listsDatabases = false) (ht : a.listsTables = true)
    (h : tableNames a.database a.reply = .ok names) :
    a.updates renderer = [(.tables, .list names)] := by
  rw [updates_of_listsTables hq hd ht]
  cases hr : a.reply with
  | tabular rows =>
    rw [hr] at h
    cases h
    rfl
  | listing databases =>
    rw [hr] at h
    cases h
    rw [find?_selected]
  | failure message =>
    rw [hr] at h
    cases h

theorem Begins.shown_eq {s : Session} {now : Nat} {action : Action} {t : Turn}
    (h : Begins s now action t) (renderer : Renderer) :
    t.shown =
      (action.refusal.map Happening.refused).toList.flatMap (Happening.updates renderer) := by
  cases h with
  | rejected hrefusal => simp [hrefusal, Happening.updates, reject, fail]
  | waits hrefusal hstage => simp [hrefusal, await]
  | selects hvalid => simp [Action.refusal, hvalid, done]
  | enters => rfl
  | closes => rfl

/-- What a reply leads to in the stage that waits for it, by what was asked for. -/
theorem Resumes.shown_eq {s : Session} {stage : Stage} {reply : Reply} {t : Turn}
    (h : Resumes s stage (.ok reply) t) {action : Action} (hstage : action.HasStage stage)
    (call : Nat) :
    t.shown = Answered.updates s.renderer
      ⟨call, action, stage.query, s.selection.database, reply⟩ := by
  cases hstage with
  | answer =>
    rw [Answered.updates_of_isQuery rfl rfl rfl]
    cases h with
    | answered hrender => simp [hrender, done]
    | broken hrender => simp [hrender]
    | reported hanswer hlisting => exact absurd rfl (hanswer _)
  | creation =>
    rw [Answered.updates_of_statement (a := ⟨_, .create _, (Stage.creation _).query, _, _⟩)
      rfl (beq_false_of_ne (creation_query_ne _)) rfl]
    cases h with
    | reported hanswer hlisting => rfl
    | created haccepted => cases reply <;> first | rfl | cases haccepted
  | created =>
    rw [Answered.updates_of_listsDatabases rfl rfl rfl]
    cases h with
    | reported hanswer hlisting => exact absurd rfl hlisting
    | listed => rfl
    | undrawn hdrawn => cases reply <;> cases hdrawn <;> rfl
  | listing =>
    rw [Answered.updates_of_listsDatabases rfl rfl rfl]
    cases h with
    | reported hanswer hlisting => exact absurd rfl hlisting
    | listed => rfl
    | undrawn hdrawn => cases reply <;> cases hdrawn <;> rfl
  | change =>
    rw [Answered.updates_of_statement (a := ⟨_, .use _, (Stage.change _).query, _, _⟩) rfl
      rfl (beq_false_of_ne (change_query_ne _))]
    cases h with
    | reported hanswer hlisting => rfl
    | changed haccepted => cases reply <;> first | rfl | cases haccepted
  | changed =>
    cases h with
    | reported hanswer hlisting => rw [Answered.updates_of_listsTables rfl rfl rfl]; rfl
    | named hnames => exact (Answered.updates_of_named rfl rfl rfl hnames).symm
  | tables =>
    cases h with
    | reported hanswer hlisting => rw [Answered.updates_of_listsTables rfl rfl rfl]; rfl
    | named hnames => exact (Answered.updates_of_named rfl rfl rfl hnames).symm

/-! ## The panels of one happening -/

@[simp] theorem history_append (panel : Panel) (a b : List Update) :
    history panel (a ++ b) = history panel a ++ history panel b :=
  List.filterMap_append

theorem history_eq_nil {panel : Panel} {shown : List Update} (h : ∀ u ∈ shown, u.1 ≠ panel) :
    history panel shown = [] :=
  List.filterMap_eq_nil_iff.2 fun u hu => if_neg (h u hu)

@[simp] theorem history_mk (panel other : Panel) (content? : Option Presentation) :
    history panel (content?.toList.map (Prod.mk other)) =
      if other = panel then content?.toList else [] := by
  cases content? <;> by_cases h : other = panel <;> simp [history, h]

/-- What a happening leads to in each panel. -/
def Happening.content? (renderer : Renderer) (what : Happening) : Panel → Option Presentation
  | .results => what.answered?.bind (Answered.result? renderer)
  | .notice => what.notice?
  | .live => what.polled?.bind (Outcome.shown renderer)
  | .graph => what.answered?.bind Answered.graph?
  | .databases => what.answered?.bind Answered.databases?
  | .tables => what.answered?.bind Answered.tables?

theorem Happening.history_updates (renderer : Renderer) (what : Happening) (panel : Panel) :
    history panel (what.updates renderer) = (what.content? renderer panel).toList := by
  cases what with
  | refused reason => cases panel <;> rfl
  | unreached e => cases panel <;> rfl
  | answered a =>
    cases panel <;>
      simp [updates, Answered.updates, content?, answered?, polled?, notice?]
  | polled outcome =>
    cases panel <;> simp [updates, content?, answered?, polled?, notice?]

theorem Happening.isError_of_notice? {what : Happening} {content : Presentation}
    (h : what.notice? = some content) : content.isError = true := by
  cases what with
  | refused reason =>
    cases h
    rfl
  | unreached e =>
    cases h
    rfl
  | answered a =>
    simp only [notice?, Answered.notice?] at h
    split at h
    · cases h
    · cases hr : a.reply with
      | failure message =>
        rw [hr] at h
        cases h
        rfl
      | tabular rows => simp [hr] at h
      | listing databases => simp [hr] at h
  | polled outcome => cases h

/-- The graph of a listing, and the names of its databases right after it. -/
def drawing (listing : List Database) : List Update :=
  [(.graph, .graph (Graph.ofDatabases listing)), (.databases, .list (listing.map Database.name))]

/-- A happening draws a listing and names its databases, or replaces the graph by an error, or
leaves both panels alone. -/
theorem Happening.drawing_cases (renderer : Renderer) (what : Happening) :
    (∃ listing, what.updates renderer = drawing listing) ∨
    (∃ message, what.updates renderer = [(.graph, .error message)]) ∨
    (∀ u ∈ what.updates renderer, u.1 ≠ .graph ∧ u.1 ≠ .databases) := by
  cases what with
  | refused reason => exact .inr (.inr (by simp [updates]))
  | unreached e => exact .inr (.inr (by simp [updates]))
  | answered a =>
    cases hd : a.listsDatabases with
    | true =>
      obtain ⟨hq, ht⟩ := a.not_of_listsDatabases hd
      rw [updates, Answered.updates_of_listsDatabases hq hd ht]
      cases a.reply with
      | listing databases => exact .inl ⟨databases, rfl⟩
      | tabular rows => exact .inr (.inl ⟨_, rfl⟩)
      | failure message => exact .inr (.inl ⟨message, rfl⟩)
    | false =>
      refine .inr (.inr fun u hu => ?_)
      simp only [updates, Answered.updates, Answered.graph?, Answered.databases?, hd,
        List.mem_append, List.mem_map] at hu
      grind
  | polled outcome => exact .inr (.inr (by simp [updates]))

end Session

end QueryConsole
