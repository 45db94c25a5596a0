import QueryConsole.Proofs.Identifier
import QueryConsole.Proofs.Session.Calls
import QueryConsole.Proofs.Session.Polling

/-!
# What a session sends

Every query that leaves a session belongs to a call or to a poller. What a call sends is fixed by its
action and by the outcomes that arrive for it: a first query unless it is refused, and a second one
only after the first was answered without failure. A poller asks for the rows of a table that was
selected by its name. So no text of an operator gets into a statement of the console but a name, and
a name ends no statement.

## Main definitions

- `Outcome.accepted`, `Session.arrivals`: an answer without failure, and the outcomes of a call
- `Session.Action.traffic`: the queries of a call
- `Session.Sanctioned`: the queries that may be sent, and by whom
- `Session.Run.Traffic`: what is sent in a run

## Main results

- `Session.Run.queries_of_begin`: each call sends exactly its queries
- `Session.Run.sanctioned_of_sent`: nothing else is sent
- `query_traffic_exact`: both, and where the statements end
-/

namespace QueryConsole

/-- A query is answered without failure. -/
def Outcome.accepted : Outcome → Bool
  | .ok reply => !reply.isFailure
  | .error _ => false

namespace Session

open Identifier (IsName EndsOnce)

/-- The outcome that a move brings a call. -/
def Move.outcome? (call : Nat) : Move → Option Outcome
  | .answer c outcome => if c = call then some outcome else none
  | _ => none

/-- The outcomes that arrive for a call, in order. -/
def arrivals (call : Nat) (moves : List Move) : List Outcome :=
  moves.filterMap (Move.outcome? call)

/-- The queries that a call sends, by the outcomes that arrive for it. -/
def Action.traffic : Action → List Outcome → List String
  | .query text, _ => if Text.trim text = "" then [] else [Text.trim text]
  | .create name, outcomes =>
    if Identifier.isValid (Text.trim name) then
      ("CREATE DATABASE " ++ Text.trim name ++ ";") ::
        if outcomes.head?.any Outcome.accepted then ["\\dc"] else []
    else []
  | .refresh, _ => ["\\dc"]
  | .use name, outcomes =>
    if Identifier.isValid (Text.trim name) then
      ("USE " ++ Text.trim name ++ ";") ::
        if outcomes.head?.any Outcome.accepted then ["\\dt"] else []
    else []
  | .tables, _ => ["\\dt"]
  | .select _, _ => []
  | .tab _, _ => []
  | .close, _ => []

/-- The queries that may be sent where the listed actions were begun, and by whom. -/
inductive Sanctioned (begun : List Action) : Origin → String → Prop
  /-- an operator's own statement -/
  | statement {call : Nat} {text : String} (h : begun[call]? = some (.query text))
    (hfilled : Text.trim text ≠ "") : Sanctioned begun (.call call) (Text.trim text)
  | creation {call : Nat} {name : String} (h : begun[call]? = some (.create name))
    (hname : IsName (Text.trim name)) :
    Sanctioned begun (.call call) ("CREATE DATABASE " ++ Text.trim name ++ ";")
  | databases {call : Nat}
    (h : begun[call]? = some .refresh ∨ ∃ name, begun[call]? = some (.create name)) :
    Sanctioned begun (.call call) "\\dc"
  | change {call : Nat} {name : String} (h : begun[call]? = some (.use name))
    (hname : IsName (Text.trim name)) :
    Sanctioned begun (.call call) ("USE " ++ Text.trim name ++ ";")
  | tables {call : Nat}
    (h : begun[call]? = some .tables ∨ ∃ name, begun[call]? = some (.use name)) :
    Sanctioned begun (.call call) "\\dt"
  /-- the rows of a selected table -/
  | rows {id : Nat} {name : String} (h : .select name ∈ begun) (hname : IsName (Text.trim name)) :
    Sanctioned begun (.poller id) ("SELECT * FROM " ++ Text.trim name ++ ";")

/-- Whatever is sent is an operator's own statement, asks for a list, or is a single statement. -/
theorem Sanctioned.shape {begun : List Action} {origin : Origin} {query : String}
    (h : Sanctioned begun origin query) :
    (∃ text, .query text ∈ begun ∧ query = Text.trim text ∧ query ≠ "") ∨ query = "\\dc" ∨
      query = "\\dt" ∨ EndsOnce query := by
  cases h with
  | @statement call text h hfilled =>
    exact .inl ⟨text, List.mem_of_getElem? h, rfl, hfilled⟩
  | creation h hname => exact .inr (.inr (.inr (hname.endsOnce (by decide))))
  | databases h => exact .inr (.inl rfl)
  | change h hname => exact .inr (.inr (.inr (hname.endsOnce (by decide))))
  | tables h => exact .inr (.inr (.inl rfl))
  | rows h hname => exact .inr (.inr (.inr (hname.endsOnce (by decide))))

/-! ## The stages of a call and their queries -/

/-- The queries of the stages that a call has not reached, by the outcomes that arrive for it from
now on. -/
def follow : List Stage → List Outcome → List String
  | next :: rest, outcome :: later =>
    if outcome.accepted then next.query :: follow rest later else []
  | _, _ => []

@[simp] theorem follow_nil (outcomes : List Outcome) : follow [] outcomes = [] := rfl

/-- The only further stage of a call is reached when the first outcome is an answer without
failure. -/
theorem follow_single (next : Stage) (outcomes : List Outcome) :
    follow [next] outcomes =
      if outcomes.head?.any Outcome.accepted then [next.query] else [] := by
  cases outcomes with
  | nil => rfl
  | cons outcome later => cases haccepted : outcome.accepted <;> simp [follow, haccepted]

/-- Only the creation of a database and the change to one have a stage after them. -/
theorem Action.stages_after {action : Action} {k : Nat} {stage : Stage} {rest : List Stage}
    (h : action.stages.drop k = stage :: rest) :
    (∃ name, stage = .creation name ∧ rest = [.listing]) ∨
      (∃ name, stage = .change name ∧ rest = [.tables]) ∨
      (rest = [] ∧ (∀ name, stage ≠ .creation name) ∧ ∀ name, stage ≠ .change name) := by
  cases action <;> rcases k with _ | _ | k <;> simp_all [Action.stages] <;>
    obtain ⟨rfl, rfl⟩ := h <;> simp

/-- A call goes on to its next stage when its query was answered without failure, and is over
otherwise. -/
theorem Resumes.goes_on {s : Session} {stage : Stage} {outcome : Outcome} {t : Turn}
    (h : Resumes s stage outcome t) {action : Action} {k : Nat} {rest : List Stage}
    (hstages : action.stages.drop k = stage :: rest) :
    (∃ next later, rest = next :: later ∧ outcome.accepted = true ∧
      t.progress = .waiting next) ∨
    ((rest = [] ∨ outcome.accepted = false) ∧ ∀ next, t.progress ≠ .waiting next) := by
  have hafter := Action.stages_after hstages
  cases h with
  | unanswered => exact .inr ⟨.inr rfl, fun _ hwaits => by cases hwaits⟩
  | answered hrender => exact .inr ⟨.inl (by simpa using hafter), fun _ hwaits => by cases hwaits⟩
  | broken hrender => exact .inr ⟨.inl (by simpa using hafter), fun _ hwaits => by cases hwaits⟩
  | reported hanswer hlisting => exact .inr ⟨.inr rfl, fun _ hwaits => by cases hwaits⟩
  | created haccepted =>
    have hrest : rest = [.listing] := by simpa using hafter
    exact .inl ⟨_, _, hrest, by simp [Outcome.accepted, haccepted], rfl⟩
  | listed => exact .inr ⟨.inl (by simpa using hafter), fun _ hwaits => by cases hwaits⟩
  | undrawn hdrawn => exact .inr ⟨.inl (by simpa using hafter), fun _ hwaits => by cases hwaits⟩
  | changed haccepted =>
    have hrest : rest = [.tables] := by simpa using hafter
    exact .inl ⟨_, _, hrest, by simp [Outcome.accepted, haccepted], rfl⟩
  | named hnames => exact .inr ⟨.inl (by simpa using hafter), fun _ hwaits => by cases hwaits⟩

theorem Action.traffic_of_refusal {action : Action} {reason : String}
    (h : action.refusal = some reason) (outcomes : List Outcome) :
    action.traffic outcomes = [] := by
  cases action with
  | query text =>
    have hblank : Text.trim text = "" := by
      by_contra hfilled
      simp [refusal, hfilled] at h
    rw [traffic, if_pos hblank]
  | create name =>
    have hname : ¬Identifier.isValid (Text.trim name) = true := by
      intro hvalid
      simp [refusal, hvalid] at h
    rw [traffic, if_neg hname]
  | use name =>
    have hname : ¬Identifier.isValid (Text.trim name) = true := by
      intro hvalid
      simp [refusal, hvalid] at h
    rw [traffic, if_neg hname]
  | refresh => cases h
  | tables => cases h
  | select name => rfl
  | tab tab => rfl
  | close => rfl

theorem Action.traffic_of_stages {action : Action} {stage : Stage} {rest : List Stage}
    (h : action.refusal = none) (hstages : action.stages = stage :: rest)
    (outcomes : List Outcome) : action.traffic outcomes = stage.query :: follow rest outcomes := by
  cases action with
  | query text =>
    obtain ⟨rfl, rfl⟩ := List.cons.inj hstages
    have hfilled : Text.trim text ≠ "" := by
      intro hblank
      simp [refusal, hblank] at h
    rw [traffic, if_neg hfilled]
    rfl
  | create name =>
    obtain ⟨rfl, rfl⟩ := List.cons.inj hstages
    have hname : Identifier.isValid (Text.trim name) = true := by
      by_contra hinvalid
      simp [refusal, hinvalid] at h
    rw [traffic, if_pos hname, follow_single]
    rfl
  | use name =>
    obtain ⟨rfl, rfl⟩ := List.cons.inj hstages
    have hname : Identifier.isValid (Text.trim name) = true := by
      by_contra hinvalid
      simp [refusal, hinvalid] at h
    rw [traffic, if_pos hname, follow_single]
    rfl
  | refresh =>
    obtain ⟨rfl, rfl⟩ := List.cons.inj hstages
    rfl
  | tables =>
    obtain ⟨rfl, rfl⟩ := List.cons.inj hstages
    rfl
  | select name => cases hstages
  | tab tab => cases hstages
  | close => cases hstages

/-! ## The queries of a call -/

namespace Run

variable {renderer : Renderer} {period : Nat} {begun : List Action} {r : Run} {call : Nat}

theorem outcome?_of_answers_false {m : Move} (h : m.answers call = false) :
    m.outcome? call = none := by
  cases m with
  | answer c outcome =>
    have hc : c ≠ call := by simpa [Move.answers] using h
    exact if_neg hc
  | _ => rfl

/-- A call that is over sends nothing any more. -/
theorem queries_of_ended (hcall : call < r.begun) (hidle : ∀ stage, ⟨call, stage⟩ ∉ r.pending)
    (later : List Move) : queries (ofCall call (r.exec later).2) = [] := by
  induction later generalizing r with
  | nil => rfl
  | cons m later ih =>
    have hstep : ofCall call (r.step m).2 = [] ∧ ∀ stage, ⟨call, stage⟩ ∉ (r.step m).1.pending := by
      cases hanswer : m.answers call with
      | false =>
        obtain ⟨hnone, hpending⟩ := step_other (fun _ => Nat.ne_of_lt hcall) hanswer
        exact ⟨hnone, fun stage hmem => hidle stage ((hpending stage).1 hmem)⟩
      | true =>
        -- nobody waits for the outcome
        cases m with
        | answer c outcome =>
          obtain rfl : c = call := by simpa [Move.answers] using hanswer
          rw [step_answer_none (find_none hidle)]
          exact ⟨rfl, hidle⟩
        | begin now action => cases hanswer
        | ask now id => cases hanswer
        | receive id outcome => cases hanswer
        | look id => cases hanswer
        | drop => cases hanswer
    have hlt : call < (r.step m).1.begun := Nat.lt_of_lt_of_le hcall (begun_le_step r m)
    simp only [Run.exec, ofCall_append, queries_append]
    rw [hstep.1, ih hlt hstep.2]
    rfl

/-- A call that waits sends the queries of its further stages, as far as its outcomes let it. -/
theorem queries_of_waiting (h : Orderly begun r) {action : Action} {k : Nat} {stage : Stage}
    {rest : List Stage} (hpending : ⟨call, stage⟩ ∈ r.pending)
    (hstages : action.stages.drop k = stage :: rest) (later : List Move) :
    queries (ofCall call (r.exec later).2) = follow rest (arrivals call later) := by
  induction later generalizing r begun k stage rest with
  | nil => cases rest <;> rfl
  | cons m later ih =>
    have hcall : call < r.begun := h.call_lt hpending
    simp only [Run.exec, ofCall_append, queries_append]
    cases hanswer : m.answers call with
    | false =>
      obtain ⟨hnone, hstill⟩ := step_other (fun _ => Nat.ne_of_lt hcall) hanswer
      have harrivals : arrivals call (m :: later) = arrivals call later :=
        List.filterMap_cons_none (outcome?_of_answers_false hanswer)
      rw [hnone, ih (h.step m) ((hstill stage).2 hpending) hstages, harrivals]
      rfl
    | true =>
      cases m with
      | answer c outcome =>
        obtain rfl : c = call := by simpa [Move.answers] using hanswer
        have hfind := h.find hpending
        have harrivals : arrivals c (.answer c outcome :: later) =
            outcome :: arrivals c later :=
          List.filterMap_cons_some (if_pos rfl)
        have hnext := h.step (.answer c outcome)
        rw [step_answer hfind] at hnext ⊢
        rw [Turn.ofCall_events, Turn.queries_events, harrivals]
        obtain ⟨next, rest', rfl, haccepted, hwaits⟩ | ⟨hover, hend⟩ :=
          (r.session.resumes stage outcome).goes_on hstages
        · have hdrop : action.stages.drop (k + 1) = next :: rest' := by
            rw [← List.drop_drop, hstages, List.drop_one, List.tail_cons]
          have hmem := (Turn.mem_pending (r.session.resume stage outcome) c).2
            ⟨next, hwaits, rfl⟩
          rw [ih hnext (List.mem_append_right _ hmem) hdrop, follow, if_pos haccepted]
          simp [Turn.pending, hwaits]
        · have hpendings := (r.session.resume stage outcome).pending_eq_nil c hend
          simp only [hpendings, List.map_nil, List.nil_append, List.append_nil]
          rw [queries_of_ended (r := ⟨_, r.begun, r.pending.filter (·.call != c)⟩) hcall]
          · obtain rfl | hfailed := hover
            · rfl
            · cases rest <;> simp [follow, hfailed]
          · intro s hmem
            simpa using (List.mem_filter.1 hmem).2
      | begin now action => cases hanswer
      | ask now id => cases hanswer
      | receive id outcome => cases hanswer
      | look id => cases hanswer
      | drop => cases hanswer

/-- From the moment it is begun, a call sends exactly its queries. -/
theorem queries_of_begin (h : Orderly begun r) (now : Nat) (action : Action) (later : List Move) :
    queries (ofCall r.begun (r.exec (.begin now action :: later)).2) =
      action.traffic (arrivals r.begun later) := by
  have hnext := h.step (.begin now action)
  have hcall : r.begun < (r.step (.begin now action)).1.begun := Nat.lt_succ_self _
  have hended (hidle : ∀ stage, ⟨r.begun, stage⟩ ∉ (r.step (.begin now action)).1.pending) :=
    queries_of_ended hcall hidle later
  have hfresh : ∀ stage, ⟨r.begun, stage⟩ ∉ r.pending := fun stage hmem =>
    Nat.lt_irrefl _ (h.call_lt hmem)
  simp only [Run.exec, ofCall_append, queries_append]
  rw [step_begin] at hended hnext ⊢
  rw [Turn.ofCall_events, Turn.queries_events]
  have hbegins := r.session.begins now action
  generalize r.session.begin now action = t at hended hnext hbegins ⊢
  cases hbegins with
  | rejected hrefusal =>
    rw [hended (by simpa [reject, fail, Turn.pending] using hfresh),
      Action.traffic_of_refusal hrefusal]
    rfl
  | @waits _ stage hrefusal hstage =>
    have hstages : action.stages.drop 0 = stage :: action.stages.tail :=
      List.eq_cons_of_mem_head? (by rwa [List.head?_eq_getElem?])
    have hmem : ⟨r.begun, stage⟩ ∈ r.pending ++ (r.session.await stage).pending r.begun :=
      List.mem_append_right _ (List.mem_singleton_self _)
    rw [queries_of_waiting hnext hmem hstages, Action.traffic_of_stages hrefusal hstages]
    rfl
  | selects hvalid =>
    rw [hended (by simpa [done, Turn.pending] using hfresh)]
    rfl
  | enters =>
    rw [hended (by simpa [done, Turn.pending] using hfresh)]
    rfl
  | closes =>
    rw [hended (by simpa [done, Turn.pending] using hfresh)]
    rfl

/-- In a run from the beginning, each call sends exactly its queries. -/
theorem queries_of_call (renderer : Renderer) (period : Nat) (before later : List Move) (now : Nat)
    (action : Action) :
    queries (ofCall (after renderer period before).begun
        (seen renderer period (before ++ .begin now action :: later))) =
      action.traffic (arrivals (after renderer period before).begun later) := by
  have hunbegun := (Orderly.start renderer period).ofCall_exec
    (Nat.le_refl (after renderer period before).begun)
  rw [seen, exec_append, ofCall_append, hunbegun, List.nil_append]
  exact queries_of_begin ((Orderly.start renderer period).exec before) now action later

/-- The place in a run where a call was begun. -/
theorem exists_begin (renderer : Renderer) (period : Nat) {run : List Move} {action : Action}
    (h : (actions run)[call]? = some action) :
    ∃ before now later, run = before ++ .begin now action :: later ∧
      (after renderer period before).begun = call := by
  induction run using List.reverseRecOn with
  | nil => cases h
  | append_singleton run m ih =>
    have hcount : (after renderer period run).begun = (actions run).length :=
      ((Orderly.start renderer period).exec run).counted
    have hactions : actions (run ++ [m]) = actions run ++ m.action?.toList := by
      simp only [actions, List.filterMap_append]
      cases hm : m.action? <;> simp [hm]
    rw [hactions] at h
    by_cases hlt : call < (actions run).length
    · rw [List.getElem?_append_left hlt] at h
      obtain ⟨before, now, later, rfl, hbegun⟩ := ih h
      exact ⟨before, now, later ++ [m], by simp, hbegun⟩
    · rw [List.getElem?_append_right (Nat.le_of_not_lt hlt)] at h
      cases m with
      | begin now action' =>
        rw [show (Move.begin now action').action?.toList = [action'] from rfl,
          List.getElem?_singleton] at h
        obtain ⟨hzero, haction⟩ := Option.ite_none_right_eq_some.1 h
        obtain rfl := Option.some.inj haction
        exact ⟨run, now, [], rfl, by omega⟩
      | answer c outcome => cases h
      | ask now id => cases h
      | receive id outcome => cases h
      | look id => cases h
      | drop => cases h

theorem sanctioned_of_traffic {begun : List Action} {call : Nat} {action : Action}
    (h : begun[call]? = some action) {outcomes : List Outcome} {query : String}
    (hquery : query ∈ action.traffic outcomes) : Sanctioned begun (.call call) query := by
  cases action with
  | query text =>
    by_cases hblank : Text.trim text = ""
    · simp [Action.traffic, hblank] at hquery
    · obtain rfl : query = Text.trim text := by simpa [Action.traffic, hblank] using hquery
      exact .statement h hblank
  | create name =>
    cases hvalid : Identifier.isValid (Text.trim name) with
    | false => simp [Action.traffic, hvalid] at hquery
    | true =>
      rw [Action.traffic, if_pos hvalid] at hquery
      obtain rfl | hlist := List.mem_cons.1 hquery
      · exact .creation h (Identifier.isValid_iff.1 hvalid)
      · obtain ⟨_, hlist⟩ := List.mem_ite_nil_right.1 hlist
        obtain rfl := List.mem_singleton.1 hlist
        exact .databases (.inr ⟨name, h⟩)
  | refresh =>
    obtain rfl := List.mem_singleton.1 hquery
    exact .databases (.inl h)
  | use name =>
    cases hvalid : Identifier.isValid (Text.trim name) with
    | false => simp [Action.traffic, hvalid] at hquery
    | true =>
      rw [Action.traffic, if_pos hvalid] at hquery
      obtain rfl | hlist := List.mem_cons.1 hquery
      · exact .change h (Identifier.isValid_iff.1 hvalid)
      · obtain ⟨_, hlist⟩ := List.mem_ite_nil_right.1 hlist
        obtain rfl := List.mem_singleton.1 hlist
        exact .tables (.inr ⟨name, h⟩)
  | tables =>
    obtain rfl := List.mem_singleton.1 hquery
    exact .tables (.inl h)
  | select name => cases hquery
  | tab tab => cases hquery
  | close => cases hquery

/-- A query of a call is one of those that its action sends. -/
theorem sanctioned_of_sent_call {run : List Move} {query : String}
    (h : .sent (.call call) query ∈ seen renderer period run) :
    Sanctioned (actions run) (.call call) query := by
  have hof : .sent (.call call) query ∈ ofCall call (seen renderer period run) :=
    List.mem_filter.2 ⟨h, by simp [Event.isOf]⟩
  have horderly := (Orderly.start renderer period).exec run
  have hcall : call < (actions run).length := by
    by_contra hge
    have hcount := horderly.counted
    rw [List.nil_append] at hcount
    have hnone : ofCall call (seen renderer period run) = [] :=
      (Orderly.start renderer period).ofCall_exec (by omega)
    rw [hnone] at hof
    cases hof
  have haction := List.getElem?_eq_getElem hcall
  obtain ⟨before, now, later, hrun, hbegun⟩ := exists_begin renderer period haction
  have hqueries := queries_of_call renderer period before later now (actions run)[call]
  rw [← hrun, hbegun] at hqueries
  have hquery : query ∈ (actions run)[call].traffic (arrivals call later) := by
    rw [← hqueries]
    exact List.mem_filterMap.2 ⟨_, hof, rfl⟩
  exact sanctioned_of_traffic haction hquery

/-! ## The queries of the pollers -/

/-- The watched table was selected by its name. -/
def Chosen (begun : List Action) (r : Run) : Prop :=
  ∀ sub, r.session.live.active = some sub →
    ∃ name, .select name ∈ begun ∧ IsName (Text.trim name) ∧ sub.table = Text.trim name

theorem Chosen.start (renderer : Renderer) (period : Nat) : Chosen [] (start renderer period) := by
  intro sub hsub
  rw [(start_session renderer period).1] at hsub
  cases hsub

/-- A table is watched only because it has just been selected, or was watched before. -/
theorem active_step (r : Run) (m : Move) {sub : Live.Subscription}
    (h : (r.step m).1.session.live.active = some sub) :
    r.session.live.active = some sub ∨ ∃ now name, m = .begin now (.select name) ∧
      Identifier.isValid (Text.trim name) = true ∧ sub.table = Text.trim name := by
  obtain ⟨hlive, _⟩ := r.step_session m
  rw [hlive] at h
  cases m with
  | begin now action =>
    cases hd : r.deed (.begin now action) with
    | none =>
      rw [hd] at h
      exact .inl h
    | some d =>
      rw [hd] at h
      cases action with
      | select name =>
        obtain ⟨hvalid, hd⟩ := Option.ite_none_right_eq_some.1 hd
        obtain rfl := Option.some.inj hd
        obtain rfl := Option.some.inj h
        exact .inr ⟨now, name, rfl, hvalid, rfl⟩
      | tab tab =>
        obtain ⟨_, hd⟩ := Option.ite_none_right_eq_some.1 hd
        obtain rfl := Option.some.inj hd
        cases h
      | close =>
        obtain rfl := Option.some.inj hd
        cases h
      | _ => cases hd
  | answer call outcome =>
    cases hd : r.deed (.answer call outcome) with
    | none =>
      rw [hd] at h
      exact .inl h
    | some d =>
      rw [hd] at h
      obtain ⟨p, _, hp⟩ := Option.bind_eq_some_iff.1 hd
      obtain rfl := Stage.deed_eq hp
      cases h
  | ask now id => exact .inl (by simpa [deed, Live.exec, Live.step] using h)
  | receive id outcome => exact .inl (by simpa [deed, Live.exec, Live.step] using h)
  | look id => exact .inl (by simpa [deed, Live.exec, Live.step] using h)
  | drop => cases h

theorem Chosen.step (h : Chosen begun r) (m : Move) :
    Chosen (begun ++ m.action?.toList) (r.step m).1 := by
  intro sub hsub
  obtain hold | ⟨now, name, rfl, hvalid, htable⟩ := active_step r m hsub
  · obtain ⟨name, hmem, hname, htable⟩ := h sub hold
    exact ⟨name, List.mem_append_left _ hmem, hname, htable⟩
  · exact ⟨name, List.mem_append_right _ (List.mem_singleton_self _),
      Identifier.isValid_iff.1 hvalid, htable⟩

/-- A query of a poller asks for the rows of a table that was selected. -/
theorem sanctioned_of_sent_poller (hsound : r.session.live.Sound) (hchosen : Chosen begun r)
    {moves : List Move} {id : Nat} {query : String}
    (h : .sent (.poller id) query ∈ (r.exec moves).2) :
    Sanctioned (begun ++ actions moves) (.poller id) query := by
  induction moves generalizing r begun with
  | nil => cases h
  | cons m moves ih =>
    obtain hfirst | hlater := List.mem_append.1 h
    · obtain ⟨d, _, hsent⟩ := deed_of_sent hfirst
      obtain ⟨sub, hsub, _, rfl⟩ := hsound.active_of_sent hsent
      obtain ⟨name, hmem, hname, htable⟩ := hchosen sub hsub
      rw [htable]
      exact .rows (List.mem_append_left _ hmem) hname
    · have hnext : (r.step m).1.session.live.Sound := by
        rw [(r.step_session m).1]
        exact hsound.exec _ _
      have hrest := ih hnext (hchosen.step m) hlater
      rwa [List.append_assoc, ← actions_cons] at hrest

/-- Everything that is sent in a run is sanctioned by the actions that were begun in it. -/
theorem sanctioned_of_sent {run : List Move} {origin : Origin} {query : String}
    (h : .sent origin query ∈ seen renderer period run) :
    Sanctioned (actions run) origin query := by
  cases origin with
  | call call => exact sanctioned_of_sent_call h
  | poller id =>
    exact sanctioned_of_sent_poller (after_sound []) (Chosen.start renderer period) h

/-- What is sent in a run. -/
structure Traffic (renderer : Renderer) (period : Nat) (run : List Move) : Prop where
  /-- every query is one that the actions begun so far allow -/
  sanctioned : ∀ origin query, .sent origin query ∈ seen renderer period run →
    Sanctioned (actions run) origin query
  /-- what is not an operator's own statement asks for a list, or is a single statement -/
  shape : ∀ origin query, .sent origin query ∈ seen renderer period run →
    (∃ text, .query text ∈ actions run ∧ query = Text.trim text ∧ query ≠ "") ∨ query = "\\dc" ∨
      query = "\\dt" ∨ EndsOnce query
  /-- each call sends exactly the queries of its action, by the outcomes that arrive for it -/
  exact : ∀ before now action later, run = before ++ .begin now action :: later →
    queries (ofCall (after renderer period before).begun (seen renderer period run)) =
      action.traffic (arrivals (after renderer period before).begun later)

end Run

end Session

/-- In every run, whatever the operators' texts are, whatever is answered and however the calls and
polls are interleaved, each query that is sent is an operator's own statement without its outer white
space, asks for one of the two lists, or is a single statement with a valid name in it: that of a
database to be created or changed to, or of a table that was selected. A call whose name or statement
is refused sends nothing; one that creates a database or changes to one sends that statement once,
and asks for the list once and only if the statement was answered without failure. -/
theorem query_traffic_exact (renderer : Renderer) (period : Nat) (run : List Session.Move) :
    Session.Run.Traffic renderer period run where
  sanctioned _ _ := Session.Run.sanctioned_of_sent
  shape _ _ h := (Session.Run.sanctioned_of_sent h).shape
  exact := by
    rintro before now action later rfl
    exact Session.Run.queries_of_call renderer period before later now action

/-- A creation that fails is not followed by the list, and a poll asks for the selected table. -/
example :
    let run : List Session.Move := [.begin 0 (.create " shop "), .begin 0 (.use "x; DROP"),
      .begin 0 (.select "t\n"), .answer 0 (.ok (.failure "exists")), .ask 2000 1]
    Session.queries (Session.Run.seen .text 0 run) =
      ["CREATE DATABASE shop;", "SELECT * FROM t;"] := by
  decide +kernel

end QueryConsole
