import QueryConsole.Session.Run

/-!
# The turns of a call

A call is refused, finished at once, or made to wait in its first stage. When the outcome of its
query is there, it goes on to the next stage or finishes. All that such a turn can be is said here
once; what holds of calls is then a matter of a few cases.

## Main definitions

- `Session.Action.refusal`: why a session refuses an action
- `Session.Action.stages`, `Session.Action.HasStage`: the stages that a call goes through, in order,
  and one by one
- `Session.Begins`, `Session.Resumes`: the turns with which calls begin and go on

## Main results

- `Session.begins`, `Session.resumes`: there are no other turns
- `Session.Begins.stage_eq`, `Session.Resumes.stage_eq`: calls wait in their stages, in order
- `Session.Begins.shown_eq_nil`, `Session.Resumes.shown_eq_nil`: a call that goes on to wait has
  shown nothing
- `Session.Begins.not_broken`, `Session.Resumes.of_broken`: only the reply to the operator's
  statement breaks a call
-/

namespace QueryConsole

namespace Session

/-- The words with which a session refuses an action, if it does. -/
def Action.refusal : Action → Option String
  | .query text => if (Text.trim text).isEmpty then some "query is empty" else none
  | .create name | .use name | .select name =>
    if Identifier.isValid (Text.trim name) then none
    else some s!"'{Text.trim name}' is not a valid name"
  | _ => none

/-- The stages that a call goes through, in order, unless it ends before. -/
def Action.stages : Action → List Stage
  | .query text => [.answer (Text.trim text)]
  | .create name => [.creation (Text.trim name), .listing]
  | .refresh => [.listing]
  | .use name => [.change (Text.trim name), .tables]
  | .tables => [.tables]
  | _ => []

/-- The stages in which a call of an action can wait. -/
inductive Action.HasStage : Action → Stage → Prop
  | answer {text : String} : HasStage (.query text) (.answer (Text.trim text))
  | creation {name : String} : HasStage (.create name) (.creation (Text.trim name))
  | created {name : String} : HasStage (.create name) .listing
  | listing : HasStage .refresh .listing
  | change {name : String} : HasStage (.use name) (.change (Text.trim name))
  | changed {name : String} : HasStage (.use name) .tables
  | tables : HasStage .tables .tables

theorem Action.hasStage {action : Action} {k : Nat} {stage : Stage}
    (h : action.stages[k]? = some stage) : action.HasStage stage := by
  have hmem : stage ∈ action.stages := List.mem_of_getElem? h
  cases action with
  | query text =>
    obtain rfl := List.mem_singleton.1 hmem
    exact .answer
  | create name =>
    obtain rfl | hmem := List.mem_cons.1 hmem
    · exact .creation
    · obtain rfl := List.mem_singleton.1 hmem
      exact .created
  | refresh =>
    obtain rfl := List.mem_singleton.1 hmem
    exact .listing
  | use name =>
    obtain rfl | hmem := List.mem_cons.1 hmem
    · exact .change
    · obtain rfl := List.mem_singleton.1 hmem
      exact .changed
  | tables =>
    obtain rfl := List.mem_singleton.1 hmem
    exact .tables
  | select name => cases hmem
  | tab tab => cases hmem
  | close => cases hmem

theorem creation_query (name : String) :
    (Stage.creation name).query = "CREATE DATABASE " ++ name ++ ";" := rfl

theorem change_query (name : String) : (Stage.change name).query = "USE " ++ name ++ ";" := rfl

/-- The turns with which a call begins. -/
inductive Begins (s : Session) (now : Nat) : Action → Turn → Prop
  /-- it is refused -/
  | rejected {action : Action} {reason : String} (h : action.refusal = some reason) :
    Begins s now action (s.reject reason)
  /-- it waits for the daemon -/
  | waits {action : Action} {stage : Stage} (h : action.refusal = none)
    (hstage : action.stages[0]? = some stage) : Begins s now action (s.await stage)
  | selects {name : String} (h : Identifier.isValid (Text.trim name) = true) :
    Begins s now (.select name) ((s.watch now (Text.trim name)).done [] .nothing)
  | enters {tab : Tab} : Begins s now (.tab tab) ((s.enter tab).done [] .nothing)
  | closes : Begins s now .close (s.close.done [] .nothing)

/-- The turns with which a call goes on when an outcome is there. -/
inductive Resumes (s : Session) : Stage → Outcome → Turn → Prop
  /-- the daemon was not reached -/
  | unanswered {stage : Stage} {e : Error} :
    Resumes s stage (.error e) (s.fail .notice e.notice e)
  | answered {text : String} {reply : Reply} {content : Presentation}
    (h : s.renderer.render reply = some content) :
    Resumes s (.answer text) (.ok reply) (s.done [(.results, content)] (.reply reply))
  /-- the renderer does not return -/
  | broken {text : String} {reply : Reply} (h : s.renderer.render reply = none) :
    Resumes s (.answer text) (.ok reply) ⟨s, [], .broken⟩
  /-- the daemon failed to create, to change or to name the tables -/
  | reported {stage : Stage} {message : String} (hanswer : ∀ text, stage ≠ .answer text)
    (hlisting : stage ≠ .listing) : Resumes s stage (.ok (.failure message)) (s.report message)
  | created {name : String} {reply : Reply} (h : reply.isFailure = false) :
    Resumes s (.creation name) (.ok reply) (s.await .listing)
  | listed {databases : List Database} :
    Resumes s .listing (.ok (.listing databases))
      (s.done [(.graph, .graph (Graph.ofDatabases databases)),
        (.databases, .list (databases.map Database.name))] (.databases databases))
  /-- the reply has no graph -/
  | undrawn {reply : Reply} {message : String} (h : Renderer.drawn reply = .error message) :
    Resumes s .listing (.ok reply) (s.fail .graph (.error message) (.daemon message))
  | changed {name : String} {reply : Reply} (h : reply.isFailure = false) :
    Resumes s (.change name) (.ok reply) ((s.change name).await .tables)
  | named {reply : Reply} {names : List String}
    (h : tableNames s.selection.database reply = .ok names) :
    Resumes s .tables (.ok reply) (s.done [(.tables, .list names)] (.tables names))

/-! ## There are no other turns -/

theorem named_cases (s : Session) (name : String) (go : String → Turn) :
    (Identifier.isValid (Text.trim name) = true ∧ s.named name go = go (Text.trim name)) ∨
    (Identifier.isValid (Text.trim name) = false ∧
      s.named name go = s.reject s!"'{Text.trim name}' is not a valid name") := by
  unfold named
  cases hvalid : Identifier.isValid (Text.trim name) with
  | true => exact .inl ⟨rfl, by simp [hvalid]⟩
  | false => exact .inr ⟨rfl, by simp [hvalid]⟩

theorem begins (s : Session) (now : Nat) (action : Action) :
    Begins s now action (s.begin now action) := by
  cases action with
  | query text =>
    simp only [begin]
    split
    · rename_i hblank
      exact .rejected (by simp [Action.refusal, hblank])
    · rename_i hfilled
      exact .waits (by simp [Action.refusal, hfilled]) rfl
  | create name =>
    obtain ⟨hvalid, he⟩ | ⟨hvalid, he⟩ := s.named_cases name fun name => s.await (.creation name)
    · simp only [begin, he]
      exact .waits (by simp [Action.refusal, hvalid]) rfl
    · simp only [begin, he]
      exact .rejected (by simp [Action.refusal, hvalid])
  | refresh => exact .waits rfl rfl
  | use name =>
    obtain ⟨hvalid, he⟩ | ⟨hvalid, he⟩ := s.named_cases name fun name => s.await (.change name)
    · simp only [begin, he]
      exact .waits (by simp [Action.refusal, hvalid]) rfl
    · simp only [begin, he]
      exact .rejected (by simp [Action.refusal, hvalid])
  | tables => exact .waits rfl rfl
  | select name =>
    obtain ⟨hvalid, he⟩ | ⟨hvalid, he⟩ :=
      s.named_cases name fun name => (s.watch now name).done [] .nothing
    · simp only [begin, he]
      exact .selects hvalid
    · simp only [begin, he]
      exact .rejected (by simp [Action.refusal, hvalid])
  | tab tab => exact .enters
  | close => exact .closes

theorem resumes (s : Session) (stage : Stage) (outcome : Outcome) :
    Resumes s stage outcome (s.resume stage outcome) := by
  cases outcome with
  | error e => exact .unanswered
  | ok reply =>
    cases stage with
    | answer text =>
      cases hrender : s.renderer.render reply with
      | some content =>
        simp only [resume, Session.answered, hrender]
        exact .answered hrender
      | none =>
        simp only [resume, Session.answered, hrender]
        exact .broken hrender
    | creation name =>
      cases reply with
      | failure message => exact .reported (fun _ h => by cases h) (fun h => by cases h)
      | tabular rows => exact .created rfl
      | listing databases => exact .created rfl
    | listing =>
      cases reply with
      | failure message => exact .undrawn rfl
      | tabular rows => exact .undrawn rfl
      | listing databases => exact .listed
    | change name =>
      cases reply with
      | failure message => exact .reported (fun _ h => by cases h) (fun h => by cases h)
      | tabular rows => exact .changed rfl
      | listing databases => exact .changed rfl
    | tables =>
      cases reply with
      | failure message => exact .reported (fun _ h => by cases h) (fun h => by cases h)
      | tabular rows => exact .named rfl
      | listing databases => exact .named rfl

/-! ## Waiting turns -/

variable {s : Session} {now : Nat} {action : Action} {stage next : Stage} {outcome : Outcome}
  {t : Turn}

/-- A call that waits at its beginning waits in its first stage. -/
theorem Begins.stage_eq (h : Begins s now action t) (hwaits : t.progress = .waiting stage) :
    action.stages[0]? = some stage := by
  cases h with
  | rejected h => cases hwaits
  | waits h hstage =>
    cases hwaits
    exact hstage
  | selects h => cases hwaits
  | enters => cases hwaits
  | closes => cases hwaits

theorem Begins.shown_eq_nil (h : Begins s now action t) (hwaits : t.progress = .waiting stage) :
    t.shown = [] := by
  cases h with
  | rejected h => cases hwaits
  | waits h hstage => rfl
  | selects h => cases hwaits
  | enters => cases hwaits
  | closes => cases hwaits

/-- A call that goes on to wait, waits in the stage after its last one. -/
theorem Resumes.stage_eq (h : Resumes s stage outcome t) (hwaits : t.progress = .waiting next)
    {k : Nat} (hstage : action.stages[k]? = some stage) :
    action.stages[k + 1]? = some next := by
  cases h with
  | unanswered => cases hwaits
  | answered h => cases hwaits
  | broken h => cases hwaits
  | reported hanswer hlisting => cases hwaits
  | created h =>
    cases hwaits
    -- only the creation of a database comes before a listing in the stages of an action
    cases action <;> rcases k with _ | _ | k <;> simp_all [Action.stages]
  | listed => cases hwaits
  | undrawn h => cases hwaits
  | changed h =>
    cases hwaits
    cases action <;> rcases k with _ | _ | k <;> simp_all [Action.stages]
  | named h => cases hwaits

theorem Resumes.shown_eq_nil (h : Resumes s stage outcome t)
    (hwaits : t.progress = .waiting next) : t.shown = [] := by
  cases h with
  | unanswered => cases hwaits
  | answered h => cases hwaits
  | broken h => cases hwaits
  | reported hanswer hlisting => cases hwaits
  | created h => rfl
  | listed => cases hwaits
  | undrawn h => cases hwaits
  | changed h => rfl
  | named h => cases hwaits

/-! ## Calls that break -/

theorem Progress.isBroken_iff {p : Progress} : p.isBroken = true ↔ p = .broken := by
  cases p <;> simp [isBroken]

theorem Begins.not_broken (h : Begins s now action t) : t.progress ≠ .broken := by
  intro hbroken
  cases h with
  | rejected h => cases hbroken
  | waits h hstage => cases hbroken
  | selects h => cases hbroken
  | enters => cases hbroken
  | closes => cases hbroken

/-- A call breaks when the renderer does not return for the reply to the operator's statement. -/
theorem Resumes.of_broken (h : Resumes s stage outcome t) (hbroken : t.progress = .broken) :
    ∃ text reply, stage = .answer text ∧ outcome = .ok reply ∧
      s.renderer.render reply = none ∧ t = ⟨s, [], .broken⟩ := by
  cases h with
  | unanswered => cases hbroken
  | answered h => cases hbroken
  | @broken text reply h => exact ⟨text, reply, rfl, rfl, h, rfl⟩
  | reported hanswer hlisting => cases hbroken
  | created h => cases hbroken
  | listed => cases hbroken
  | undrawn h => cases hbroken
  | changed h => cases hbroken
  | named h => cases hbroken

/-- The operator's statement is the only query of its call. -/
theorem Action.eq_query_of_answer {k : Nat} {text : String}
    (h : action.stages[k]? = some (.answer text)) : k = 0 ∧ ∃ given, action = .query given := by
  cases action <;> rcases k with _ | _ | k <;> simp_all [Action.stages]

end Session

end QueryConsole
