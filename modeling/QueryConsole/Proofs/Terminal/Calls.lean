import QueryConsole.Proofs.Session.Consent
import QueryConsole.Proofs.Session.Traffic
import QueryConsole.Terminal.Program

/-!
# The calls of the terminal program

The program sees each call through to its end before it begins another one. So what it does is a run
of the session in which no two calls are ever under way at once, and each query is answered by what
the relay makes of it after all the queries before.

## Main definitions

- `Session.Action.plan`: the queries of an action, if none of them fails
- `Relay.pursue`, `Relay.traffic`: what is sent of one plan, and of several, one after another
- `Terminal.OneByOne`: the runs of a session with one call at a time
- `Terminal.Reached`: how a terminal stands after such a run

## Main results

- `Terminal.Reached.act`: an action is carried out to its end
-/

namespace QueryConsole

open Session (Action Move Stage Turn)
open Session.Run (after seen)

/-- The queries that an action is to send, unless one of them fails. -/
def Session.Action.plan (action : Action) : List String :=
  match action.refusal with
  | some _ => []
  | none => action.stages.map Stage.query

namespace Session

@[simp] theorem Action.plan_query (text : String) : (Action.query text).plan =
    if Text.trim text = "" then [] else [Text.trim text] := by
  by_cases hblank : Text.trim text = ""
  · simp [Action.plan, Action.refusal, hblank]
  · simp only [Action.plan, Action.refusal, String.isEmpty_iff, hblank, if_false]
    rfl

@[simp] theorem Action.plan_create (name : String) : (Action.create name).plan =
    if Identifier.isValid (Text.trim name) then
      ["CREATE DATABASE " ++ Text.trim name ++ ";", "\\dc"] else [] := by
  by_cases hvalid : Identifier.isValid (Text.trim name) = true
  · simp only [Action.plan, Action.refusal, hvalid, if_true]
    rfl
  · simp [Action.plan, Action.refusal, hvalid]

@[simp] theorem Action.plan_use (name : String) : (Action.use name).plan =
    if Identifier.isValid (Text.trim name) then
      ["USE " ++ Text.trim name ++ ";", "\\dt"] else [] := by
  by_cases hvalid : Identifier.isValid (Text.trim name) = true
  · simp only [Action.plan, Action.refusal, hvalid, if_true]
    rfl
  · simp [Action.plan, Action.refusal, hvalid]

@[simp] theorem Action.plan_refresh : Action.refresh.plan = ["\\dc"] := rfl

@[simp] theorem Action.plan_select (name : String) : (Action.select name).plan = [] := by
  by_cases hvalid : Identifier.isValid (Text.trim name) = true <;>
    simp [Action.plan, Action.refusal, Action.stages, hvalid]

@[simp] theorem Action.plan_tab (tab : Tab) : (Action.tab tab).plan = [] := rfl

end Session

/-- Send queries one after another until one of them fails. The result is all that was sent, with
what had been sent before. -/
def Relay.pursue (relay : Relay) : List String → List String → List String
  | sent, [] => sent
  | sent, query :: rest =>
    if (relay sent query).accepted then Relay.pursue relay (sent ++ [query]) rest
    else sent ++ [query]

/-- Carry out plans one after another, each until one of its queries fails. -/
def Relay.traffic (relay : Relay) (sent : List String) (plans : List (List String)) :
    List String :=
  plans.foldl relay.pursue sent

theorem Relay.traffic_cons (relay : Relay) (sent plan : List String)
    (plans : List (List String)) :
    relay.traffic sent (plan :: plans) = relay.traffic (relay.pursue sent plan) plans := rfl

namespace Terminal

variable {relay : Relay} {period : Nat} {run : List Move} {t : Terminal}

/-- The runs of a session in which a call begins when no other one waits, and a call that waits gets
what the relay makes of its query. -/
inductive OneByOne (relay : Relay) (period : Nat) : List Move → Prop
  | start : OneByOne relay period []
  | begins {run : List Move} {now : Nat} {action : Action} (h : OneByOne relay period run)
    (hidle : (after .text period run).pending = []) :
    OneByOne relay period (run ++ [.begin now action])
  | goesOn {run : List Move} {call : Nat} {stage : Stage} {earlier : List String}
    (h : OneByOne relay period run) (hwaits : (after .text period run).pending = [⟨call, stage⟩])
    (hsent : Session.queries (seen .text period run) = earlier ++ [stage.query]) :
    OneByOne relay period (run ++ [.answer call (relay earlier stage.query)])

/-- How a terminal stands after a run with one call at a time, when no call is left. -/
structure Reached (relay : Relay) (period : Nat) (run : List Move) (t : Terminal) : Prop where
  orderly : OneByOne relay period run
  session : (after .text period run).session = t.session
  idle : (after .text period run).pending = []
  sent : Session.queries (seen .text period run) = t.sent

/-- How a terminal stands in the midst of a call. -/
structure Midway (relay : Relay) (period : Nat) (run : List Move) (t : Terminal) (turn : Turn)
    (call : Nat) : Prop where
  orderly : OneByOne relay period run
  session : (after .text period run).session = turn.session
  pending : (after .text period run).pending = turn.pending call
  sent : Session.queries (seen .text period run) =
    t.sent ++ (turn.pending call).map (·.stage.query)

/-- The stages that a call has before it after a turn, the one it waits in first. -/
inductive Ahead (action : Action) (turn : Turn) : List Stage → Prop
  | settled (h : ∀ stage, turn.progress ≠ .waiting stage) : Ahead action turn []
  | waits {stage : Stage} {rest : List Stage} {k : Nat} (h : turn.progress = .waiting stage)
    (hstages : action.stages.drop k = stage :: rest) : Ahead action turn (stage :: rest)

theorem follow_over {fuel : Nat} {turn : Turn} (h : ∀ stage, turn.progress ≠ .waiting stage) :
    follow relay fuel t turn =
      { t with session := turn.session, broken := turn.progress.isBroken }.write
        (turn.shown.map Update.written) := by
  unfold follow
  cases hp : turn.progress with
  | finished result => cases fuel <;> rfl
  | broken => cases fuel <;> rfl
  | waiting stage => exact absurd hp (h stage)

/-- What a terminal is when a query has been sent. -/
def asking (t : Terminal) (turn : Turn) (stage : Stage) : Terminal :=
  ⟨turn.session, t.sent ++ [stage.query], t.written ++ turn.shown.map Update.written, false⟩

theorem follow_waiting {fuel : Nat} {turn : Turn} {stage : Stage}
    (h : turn.progress = .waiting stage) :
    follow relay (fuel + 1) t turn =
      follow relay fuel (t.asking turn stage)
        (turn.session.resume stage (relay t.sent stage.query)) := by
  conv_lhs => unfold follow
  rw [h]
  rfl

theorem Midway.settled {turn : Turn} {call : Nat} (h : Midway relay period run t turn call)
    (hover : ∀ stage, turn.progress ≠ .waiting stage) (fuel : Nat) :
    Reached relay period run (follow relay fuel t turn) ∧
      (follow relay fuel t turn).sent = t.sent := by
  rw [follow_over hover]
  have hnone : turn.pending call = [] := turn.pending_eq_nil call hover
  refine ⟨⟨h.orderly, h.session, ?_, ?_⟩, rfl⟩
  · rw [h.pending, hnone]
  · rw [h.sent, hnone, List.map_nil, List.append_nil]
    rfl

/-- A call that waits gets its answer and goes on. -/
theorem Midway.step {turn : Turn} {call : Nat} {stage : Stage}
    (h : Midway relay period run t turn call) (hwaits : turn.progress = .waiting stage) :
    Midway relay period (run ++ [.answer call (relay t.sent stage.query)]) (t.asking turn stage)
      (turn.session.resume stage (relay t.sent stage.query)) call := by
  have hturn : turn.pending call = [⟨call, stage⟩] := by rw [Turn.pending, hwaits]
  have hpending : (after .text period run).pending = [⟨call, stage⟩] := h.pending.trans hturn
  have hsent : Session.queries (seen .text period run) = t.sent ++ [stage.query] := by
    rw [h.sent, hturn, List.map_singleton]
  have hfind : (after .text period run).pending.find? (·.call == call) = some ⟨call, stage⟩ := by
    simp [hpending]
  have hstep := Session.Run.step_answer hfind (relay t.sent stage.query)
  rw [h.session, hpending] at hstep
  refine ⟨h.orderly.goesOn hpending hsent, ?_, ?_, ?_⟩
  · rw [Session.Run.after_append_singleton, hstep]
  · rw [Session.Run.after_append_singleton, hstep]
    simp
  · rw [Session.Run.seen_append_singleton, hstep, Session.queries_append, hsent,
      Turn.queries_events]
    rfl

/-- A call is seen through to its end. The induction is on the queries that may still be sent. -/
theorem Midway.follow {fuel : Nat} {turn : Turn} {call : Nat} {action : Action}
    {left : List Stage} (h : Midway relay period run t turn call) (hleft : Ahead action turn left)
    (hfuel : left.length ≤ fuel) :
    ∃ answers, Session.actions answers = [] ∧
      Reached relay period (run ++ answers) (follow relay fuel t turn) ∧
      (follow relay fuel t turn).sent = relay.pursue t.sent (left.map Stage.query) := by
  induction left generalizing run t turn fuel with
  | nil =>
    cases hleft with
    | settled hover =>
      obtain ⟨hreached, hsent⟩ := h.settled hover fuel
      exact ⟨[], rfl, by rwa [List.append_nil], hsent⟩
  | cons stage rest ih =>
    cases hleft with
    | @waits _ _ k hwaits hstages =>
      obtain ⟨fuel, rfl⟩ := Nat.exists_eq_add_one_of_ne_zero (Nat.ne_of_gt (Nat.lt_of_lt_of_le
        (Nat.zero_lt_succ rest.length) hfuel))
      have hnext := h.step hwaits
      rw [follow_waiting hwaits, List.map_cons, Relay.pursue]
      obtain ⟨next, later, hrest, haccepted, hgoes⟩ | ⟨hlast, hover⟩ :=
        (turn.session.resumes stage (relay t.sent stage.query)).goes_on hstages
      · have hdrop : action.stages.drop (k + 1) = next :: later := by
          rw [← List.tail_drop, hstages, List.tail_cons, hrest]
        have hahead : Ahead action (turn.session.resume stage (relay t.sent stage.query)) rest :=
          hrest ▸ .waits hgoes hdrop
        obtain ⟨answers, hnone, hreached, hsent⟩ := ih hnext hahead (Nat.le_of_succ_le_succ hfuel)
        refine ⟨.answer call (relay t.sent stage.query) :: answers, hnone, ?_, ?_⟩
        · rwa [List.append_assoc] at hreached
        · rw [if_pos haccepted]
          exact hsent
      · obtain ⟨hreached, hsent⟩ := hnext.settled hover fuel
        refine ⟨[.answer call (relay t.sent stage.query)], rfl, hreached, ?_⟩
        rw [hsent]
        obtain rfl | hrefused := hlast
        · simp [Relay.pursue, asking]
        · simp [hrefused, asking]

/-- A call breaks only at the reply to the operator's own statement, which is its only query. -/
theorem follow_broken {fuel : Nat} {turn : Turn} {action : Action} {left : List Stage}
    (hleft : Ahead action turn left) (hfuel : left.length ≤ fuel)
    (hwhole : turn.progress ≠ .broken) :
    (follow relay fuel t turn).broken = true ↔
      ∃ text reply, left = [.answer text] ∧ relay t.sent text = .ok reply ∧
        turn.session.renderer.render reply = none := by
  induction left generalizing t turn fuel with
  | nil =>
    cases hleft with
    | settled hover =>
      rw [follow_over hover]
      cases hp : turn.progress with
      | broken => exact absurd hp hwhole
      | finished result => simp [write, Session.Progress.isBroken]
      | waiting stage => exact absurd hp (hover stage)
  | cons stage rest ih =>
    cases hleft with
    | @waits _ _ k hwaits hstages =>
      obtain ⟨fuel, rfl⟩ := Nat.exists_eq_add_one_of_ne_zero (Nat.ne_of_gt (Nat.lt_of_lt_of_le
        (Nat.zero_lt_succ rest.length) hfuel))
      have hresumes := turn.session.resumes stage (relay t.sent stage.query)
      rw [follow_waiting hwaits]
      obtain ⟨next, later, hrest, haccepted, hgoes⟩ | ⟨hlast, hover⟩ := hresumes.goes_on hstages
      · -- a stage that comes after another one waits for no statement
        have hdrop : action.stages.drop (k + 1) = next :: later := by
          rw [← List.tail_drop, hstages, List.tail_cons, hrest]
        have hahead : Ahead action (turn.session.resume stage (relay t.sent stage.query)) rest :=
          hrest ▸ .waits hgoes hdrop
        rw [ih hahead (Nat.le_of_succ_le_succ hfuel) (by simp [hgoes])]
        refine iff_of_false ?_ (by simp [hrest])
        rintro ⟨text, reply, rfl, _⟩
        obtain ⟨rfl, _⟩ := List.cons.inj hrest
        have hsecond : action.stages[k + 1]? = some (.answer text) := by
          rw [← List.head?_drop, hdrop]
          rfl
        exact Nat.succ_ne_zero k (Action.eq_query_of_answer hsecond).1
      · rw [follow_over hover]
        refine Session.Progress.isBroken_iff.trans ⟨fun hbroken => ?_, ?_⟩
        · obtain ⟨text, reply, rfl, hreply, hrender, _⟩ := hresumes.of_broken hbroken
          have hfirst : action.stages[k]? = some (.answer text) := by
            rw [← List.head?_drop, hstages]
            rfl
          obtain ⟨rfl, given, rfl⟩ := Action.eq_query_of_answer hfirst
          obtain ⟨_, rfl⟩ := List.cons.inj hstages
          exact ⟨text, reply, rfl, hreply, hrender⟩
        · rintro ⟨text, reply, hleft, hreply, hrender⟩
          obtain ⟨rfl, _⟩ := List.cons.inj hleft
          have houtcome : relay t.sent (Stage.answer text).query = .ok reply := hreply
          simp only [houtcome, Session.resume, Session.answered, hrender, Session.present]

theorem length_stages (action : Action) : action.stages.length ≤ 2 := by
  cases action <;> simp [Action.stages]

/-- The stages of a call that begins: none if it is refused, and else all that its action has. -/
theorem ahead_of_begin (s : Session) (now : Nat) (action : Action) :
    ∃ left, Ahead action (s.begin now action) left ∧ left.map Stage.query = action.plan ∧
      left.length ≤ 2 ∧ left = if action.refusal = none then action.stages else [] := by
  have hbegins := s.begins now action
  generalize s.begin now action = turn at hbegins
  cases hbegins with
  | rejected hrefusal => 
    exact ⟨[], .settled (fun _ h => by cases h), by simp [Action.plan, hrefusal], by simp,
      by simp [hrefusal]⟩
  | @waits _ stage hrefusal hstage =>
    obtain ⟨rest, hstages⟩ : ∃ rest, action.stages = stage :: rest := by
      cases hall : action.stages with
      | nil => simp [hall] at hstage
      | cons first rest =>
        rw [hall] at hstage
        exact ⟨rest, by rw [← Option.some.inj hstage]⟩
    refine ⟨stage :: rest, .waits rfl (List.drop_zero.trans hstages), ?_, ?_, ?_⟩
    · rw [Action.plan, hrefusal, hstages]
    · rw [← hstages]
      exact length_stages action
    · rw [if_pos hrefusal, hstages]
  | selects hvalid =>
    exact ⟨[], .settled (fun _ h => by cases h),
      by simp [Action.plan, Action.refusal, hvalid, Action.stages], by simp, by simp [Action.stages]⟩
  | enters => exact ⟨[], .settled (fun _ h => by cases h), rfl, by simp, rfl⟩
  | closes => exact ⟨[], .settled (fun _ h => by cases h), rfl, by simp, rfl⟩

/-- An action is carried out to its end: its queries are sent until one of them fails, and none of
its calls waits any more. -/
theorem Reached.act (h : Reached relay period run t) (action : Action) :
    ∃ moves, Session.actions moves = [action] ∧
      Reached relay period (run ++ moves) (t.act relay action) ∧
      (t.act relay action).sent = relay.pursue t.sent action.plan := by
  obtain ⟨left, hleft, hplan, hfew, _⟩ := ahead_of_begin t.session 0 action
  have hmidway : Midway relay period (run ++ [.begin 0 action]) t (t.session.begin 0 action)
      (after .text period run).begun := by
    refine ⟨h.orderly.begins h.idle, ?_, ?_, ?_⟩
    · rw [Session.Run.after_append_singleton, Session.Run.step_begin, h.session]
    · rw [Session.Run.after_append_singleton, Session.Run.step_begin, h.session, h.idle]
      rfl
    · rw [Session.Run.seen_append_singleton, Session.Run.step_begin, Session.queries_append,
        Turn.queries_events, h.session, h.sent]
  obtain ⟨answers, hnone, hreached, hsent⟩ := hmidway.follow hleft hfew
  rw [List.append_assoc] at hreached
  refine ⟨.begin 0 action :: answers, ?_, hreached, hplan ▸ hsent⟩
  rw [Session.actions_cons, hnone]
  rfl

/-- An action breaks the program if it is a statement with a reply that the renderer does not return
for. -/
theorem act_broken (t : Terminal) (relay : Relay) (action : Action) :
    (t.act relay action).broken = true ↔
      ∃ text reply, action = .query text ∧ Text.trim text ≠ "" ∧
        relay t.sent (Text.trim text) = .ok reply ∧ t.session.renderer.render reply = none := by
  obtain ⟨left, hleft, _, hfew, hstages⟩ := ahead_of_begin t.session 0 action
  have hbegins := t.session.begins 0 action
  rw [act, follow_broken hleft hfew hbegins.not_broken, hbegins.session.2, hstages]
  constructor
  · rintro ⟨text, reply, hanswer, hreply, hrender⟩
    split at hanswer
    · next hrefusal =>
      obtain ⟨_, given, rfl⟩ := Action.eq_query_of_answer (k := 0) (by rw [hanswer]; rfl)
      obtain rfl : Text.trim given = text := by simpa [Action.stages] using hanswer
      refine ⟨given, reply, rfl, ?_, hreply, hrender⟩
      rintro hblank
      simp [Action.refusal, hblank] at hrefusal
    · cases hanswer
  · rintro ⟨text, reply, rfl, hfilled, hreply, hrender⟩
    refine ⟨Text.trim text, reply, ?_, hreply, hrender⟩
    rw [if_pos (by simp [Action.refusal, hfilled])]
    rfl

end Terminal

end QueryConsole
