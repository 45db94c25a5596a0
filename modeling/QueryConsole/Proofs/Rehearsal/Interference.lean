import QueryConsole.Proofs.Rehearsal.Twins
import QueryConsole.Proofs.Session.LivePanel

/-!
# Polls do not interfere

Two daemons answer the calls alike and the polls in any way. Whatever the operators do side by side,
in scene after scene, they are told the same at the same times, the session is in the same state at
every moment, and all panels but the live one show the same at the same times.

## Main definitions

- `Rehearsal.Theatre.opening`, `Rehearsal.Theatre.performAll`: a session on which scenes are played
- `Rehearsal.Theatre.at`, `Rehearsal.Rehearsed.state`: a theatre at a time, and what its session is in
- `Rehearsal.Independent`: what the operators and the daemons must not do

## Main results

- `Rehearsal.Play.Twins.run`: a scene that is played in two theatres
- `polls_do_not_interfere`: calls that are under way in any order, and scenes on the clock
-/

namespace QueryConsole

namespace Rehearsal

open Session (Action Stage Turn)

variable {tables : String → Prop} {a b : Script Action}

/-! ## Tasks -/

/-- A task is no poll. -/
def Task.Apart (tables : String → Prop) : Task → Prop
  | .act action => Rehearsal.Apart tables action
  | _ => True

namespace World.Twins

variable {w v : Theatre}

theorem leave (h : Twins tables w v) :
    Twins tables { w with subject := ⟨w.subject.session.close, true⟩ }
      { v with subject := ⟨v.subject.session.close, true⟩ } :=
  ⟨h.now, ⟨rfl, h.alike.session.close, h.alike.sent, h.alike.shown⟩,
    ⟨h.left.pollers.release, h.left.flight⟩, ⟨h.right.pollers.release, h.right.flight⟩⟩

theorem enter (h : Twins tables w v) (tab : Tab) :
    Twins tables
      { w with subject := { w.subject with session := w.subject.session.enter tab } }
      { v with subject := { v.subject with session := v.subject.session.enter tab } } :=
  ⟨h.now, ⟨h.alike.gone, h.alike.session.enter tab, h.alike.sent, h.alike.shown⟩,
    ⟨Session.watches_enter h.left.pollers tab, h.left.flight⟩,
    ⟨Session.watches_enter h.right.pollers tab, h.right.flight⟩⟩

/-- A task is started in both theatres. -/
theorem start (h : Twins tables w v) (hscripts : Script.Agree tables a b) {task : Task}
    (htask : task.Apart tables) :
    Abreast tables (fun stop => ∀ wait, stop = .inr wait → wait.2.Within tables)
      (Theatre.start w a task) (Theatre.start v b task) := by
  cases task with
  | sleep ms =>
    refine ⟨h, by simp only [Theatre.start, h.now], fun wait hwait => ?_⟩
    obtain rfl := Sum.inr.inj hwait
    trivial
  | leave =>
    simp only [Theatre.start, ← h.alike.gone]
    split
    · exact ⟨h, rfl, fun wait hwait => by cases hwait⟩
    · exact ⟨h.leave, rfl, fun wait hwait => by cases hwait⟩
  | tab name =>
    simp only [Theatre.start, ← h.alike.gone]
    split
    · exact ⟨h, rfl, fun wait hwait => by cases hwait⟩
    · cases Tab.parse name with
      | error e => exact ⟨h, rfl, fun wait hwait => by cases hwait⟩
      | ok tab =>
        have hentered := h.enter tab
        simp only [← h.alike.gone] at hentered
        exact ⟨hentered, rfl, fun wait hwait => by cases hwait⟩
  | act action =>
    simp only [Theatre.start, ← h.alike.gone]
    split
    · exact ⟨h, rfl, fun wait hwait => by cases hwait⟩
    · obtain ⟨w', v', standing, hbegun, hbegun', hworld, hstanding⟩ :=
        (h.begin hscripts htask).exists_eq
      rw [hbegun, hbegun']
      cases standing with
      | ended result => exact ⟨hworld, rfl, fun wait hwait => by cases hwait⟩
      | broken => exact ⟨hworld, rfl, fun wait hwait => by cases hwait⟩
      | waits due wake =>
        refine ⟨hworld, rfl, fun wait hwait => ?_⟩
        obtain rfl := Sum.inr.inj hwait
        exact hstanding

/-- An operator works through the same tasks in both theatres, until he waits. -/
theorem work (h : Twins tables w v) (hscripts : Script.Agree tables a b)
    (told : List (Nat × Told)) {todo : List Task} (htodo : ∀ task ∈ todo, task.Apart tables) :
    Abreast tables (fun left => (∀ wait, left.2 = some wait → wait.2.Within tables) ∧
        ∀ task ∈ left.1.todo, task.Apart tables)
      (Theatre.work a w told todo) (Theatre.work b v told todo) := by
  induction todo generalizing w v told with
  | nil => exact ⟨h, rfl, fun wait hwait => (by cases hwait), htodo⟩
  | cons task rest ih =>
    obtain ⟨htask, hrest⟩ := List.forall_mem_cons.1 htodo
    obtain ⟨w', v', stop, hstarted, hstarted', hworld, hwait⟩ :=
      (h.start hscripts htask).exists_eq
    simp only [Theatre.work, hstarted, hstarted']
    cases stop with
    | inl told' =>
      -- what is told bears the time, which is the same in both
      cases told' with
      | broken =>
        simp only [← hworld.now]
        exact ⟨hworld, rfl, fun wait hwait => (by cases hwait), fun task htask => by cases htask⟩
      | _ =>
        simp only [← hworld.now]
        exact ih hworld _ hrest
    | inr wait =>
      refine ⟨hworld, rfl, fun wait' hwait' => ?_, hrest⟩
      obtain rfl := Option.some.inj hwait'
      exact hwait _ rfl

end World.Twins

/-! ## Plays -/

namespace Play

/-- In two plays the same operators are at work and wait for the same, in theatres that are alike but
for the polls. -/
structure Twins (tables : String → Prop) (p q : Play) : Prop where
  world : World.Twins tables p.world q.world
  operators : p.operators = q.operators
  agenda : p.agenda = q.agenda
  todo : ∀ o ∈ p.operators, ∀ task ∈ o.todo, task.Apart tables
  wakes : ∀ appointment ∈ p.agenda, appointment.wake.Within tables

theorem mem_enter {x y : Appointment} {agenda : List Appointment} :
    x ∈ enter y agenda ↔ x = y ∨ x ∈ agenda := by
  induction agenda with
  | nil => simp [enter]
  | cons z rest ih =>
    simp only [enter]
    split
    · simp
    · simp only [List.mem_cons, ih]
      exact or_left_comm

namespace Twins

variable {p q : Play}

/-- An operator works in both plays, until he waits. -/
theorem work (h : Twins tables p q) (hscripts : Script.Agree tables a b) (number : Nat)
    {o : Operator} (ho : ∀ task ∈ o.todo, task.Apart tables) :
    Twins tables (p.work a number o) (q.work b number o) := by
  obtain ⟨w, v, ⟨o', wait⟩, hworked, hworked', hworld, hwait, htodo⟩ :=
    (h.world.work hscripts o.told ho).exists_eq
  simp only [Play.work, hworked, hworked', ← h.operators, ← h.agenda]
  refine ⟨hworld, rfl, rfl, fun other hother => ?_, fun x hx => ?_⟩
  · obtain hother | rfl := List.mem_or_eq_of_mem_set hother
    · exact h.todo other hother
    · exact htodo
  · cases wait with
    | none => exact h.wakes x hx
    | some wait =>
      obtain rfl | hx := mem_enter.1 hx
      · exact hwait wait rfl
      · exact h.wakes x hx

/-- An operator goes on in both plays with what he waited for. -/
theorem wake (h : Twins tables p q) (hscripts : Script.Agree tables a b) {x : Appointment}
    (hx : x.wake.Within tables) {o : Operator} (ho : ∀ task ∈ o.todo, task.Apart tables) :
    Twins tables (p.wake a x o) (q.wake b x o) := by
  obtain ⟨due, number, wake⟩ := x
  cases wake with
  | sleep =>
    simp only [Play.wake, ← h.world.now]
    exact h.work hscripts number ho
  | answer stage cue =>
    obtain ⟨w, v, standing, hresumed, hresumed', hworld, hstanding⟩ :=
      (h.world.resume hscripts stage hx).exists_eq
    simp only [Play.wake, hresumed, hresumed']
    cases standing with
    | ended result =>
      simp only [← hworld.now]
      have hplays : Twins tables { p with world := w } { q with world := v } :=
        ⟨hworld, h.operators, h.agenda, h.todo, h.wakes⟩
      exact hplays.work hscripts number ho
    | broken =>
      simp only [← hworld.now, ← h.operators]
      refine ⟨hworld, rfl, h.agenda, fun other hother => ?_, h.wakes⟩
      obtain hother | rfl := List.mem_or_eq_of_mem_set hother
      · exact h.todo other hother
      · exact fun task htask => by cases htask
    | waits due' wake =>
      refine ⟨hworld, h.operators, congrArg (enter _) h.agenda, h.todo, fun x hx => ?_⟩
      obtain rfl | hx := mem_enter.1 hx
      · exact hstanding
      · exact h.wakes x hx

/-- The earliest appointment is kept in both plays. -/
theorem keep (h : Twins tables p q) (hscripts : Script.Agree tables a b) {x : Appointment}
    {later : List Appointment} (hagenda : p.agenda = x :: later) :
    Twins tables (p.keep a x later) (q.keep b x later) := by
  have hwakes := h.wakes
  rw [hagenda] at hwakes
  obtain ⟨hx, hlater⟩ := List.forall_mem_cons.1 hwakes
  have hpassed : Twins tables
      { p with world := p.world.advanceTo Rehearsed.cast a x.due, agenda := later }
      { q with world := q.world.advanceTo Rehearsed.cast b x.due, agenda := later } :=
    ⟨h.world.advanceTo hscripts x.due, h.operators, rfl, h.todo, hlater⟩
  unfold Play.keep
  cases ho : p.operators[x.operator]? with
  | none =>
    have ho' := ho
    rw [h.operators] at ho'
    simp only [ho, ho']
    exact hpassed
  | some o =>
    have ho' := ho
    rw [h.operators] at ho'
    simp only [ho, ho']
    exact hpassed.wake hscripts hx (h.todo o (List.mem_of_getElem? ho))

theorem bound (h : Twins tables p q) : p.bound = q.bound := by
  simp only [Play.bound, h.operators]

/-- Both plays go on in the same way. -/
theorem keepAll (h : Twins tables p q) (hscripts : Script.Agree tables a b) (fuel : Nat) :
    Twins tables (Play.keepAll a fuel p) (Play.keepAll b fuel q) := by
  induction fuel generalizing p q with
  | zero => exact h
  | succ fuel ih =>
    simp only [Play.keepAll, ← h.agenda]
    cases hagenda : p.agenda with
    | nil => exact h
    | cons x later => exact ih (h.keep hscripts hagenda)

theorem workAll (h : Twins tables p q) (hscripts : Script.Agree tables a b)
    {operators : List (Operator × Nat)}
    (htodo : ∀ o ∈ operators, ∀ task ∈ o.1.todo, task.Apart tables) :
    Twins tables (operators.foldl (fun p (o, number) => p.work a number o) p)
      (operators.foldl (fun q (o, number) => q.work b number o) q) := by
  induction operators generalizing p q with
  | nil => exact h
  | cons o rest ih =>
    obtain ⟨ho, hrest⟩ := List.forall_mem_cons.1 htodo
    exact ih (h.work hscripts o.2 ho) hrest

/-- Both plays begin in the same way. -/
theorem beginAll (h : Twins tables p q) (hscripts : Script.Agree tables a b) :
    Twins tables (p.beginAll a) (q.beginAll b) := by
  simp only [Play.beginAll, ← h.operators]
  refine h.workAll hscripts fun o ho => h.todo o.1 ?_
  exact (List.mem_zipIdx' ho).2 ▸ List.getElem_mem _

/-- A play that the operators work through is the same in both theatres. -/
theorem run (h : Twins tables p q) (hscripts : Script.Agree tables a b) :
    Twins tables (Play.run a p) (Play.run b q) := by
  have hkept := (h.beginAll hscripts).keepAll hscripts p.bound
  rw [Play.run, Play.run, ← h.bound]
  refine ⟨?_, hkept.operators, hkept.agenda, hkept.todo, hkept.wakes⟩
  simpa only [hkept.world.now] using hkept.world.advanceTo hscripts _

end Twins

end Play

/-! ## Scenes -/

/-- The state of a session that is not gone: what is selected, and which table is watched. -/
def Rehearsed.state (r : Rehearsed) : Option (Session.Selection × Option String) :=
  if r.gone then none else some (r.session.selection, r.session.live.table)

namespace Play

/-- Operators with their tasks before them. -/
def ofTasks (w : Theatre) (tasks : List (List Task)) : Play :=
  ⟨w, tasks.map fun todo => ⟨todo, []⟩, []⟩

/-- The appointments are kept that are due by a time. -/
def keepUntil (script : Script Action) (time : Nat) : Nat → Play → Play
  | 0, p => p
  | fuel + 1, p =>
    match p.agenda with
    | [] => p
    | x :: later => if x.due ≤ time then keepUntil script time fuel (p.keep script x later) else p

/-- The theatre at a time while the operators work through their tasks. -/
def stopAt (script : Script Action) (time : Nat) (p : Play) : Theatre :=
  (keepUntil script time p.bound (p.beginAll script)).world.advanceTo Rehearsed.cast script time

theorem Twins.ofTasks {w v : Theatre} (h : World.Twins tables w v) {tasks : List (List Task)}
    (htasks : ∀ lane ∈ tasks, ∀ task ∈ lane, task.Apart tables) :
    Twins tables (Play.ofTasks w tasks) (Play.ofTasks v tasks) := by
  refine ⟨h, rfl, rfl, fun o ho => ?_, fun x hx => by cases hx⟩
  obtain ⟨lane, hlane, rfl⟩ := List.mem_map.1 ho
  exact htasks lane hlane

theorem Twins.keepUntil {p q : Play} (h : Twins tables p q) (hscripts : Script.Agree tables a b)
    (time fuel : Nat) : Twins tables (keepUntil a time fuel p) (keepUntil b time fuel q) := by
  induction fuel generalizing p q with
  | zero => exact h
  | succ fuel ih =>
    simp only [Play.keepUntil, ← h.agenda]
    cases hagenda : p.agenda with
    | nil => exact h
    | cons x later =>
      simp only
      split
      · exact ih (h.keep hscripts hagenda)
      · exact h

theorem Twins.stopAt {p q : Play} (h : Twins tables p q) (hscripts : Script.Agree tables a b)
    (time : Nat) : World.Twins tables (p.stopAt a time) (q.stopAt b time) := by
  rw [Play.stopAt, Play.stopAt, ← h.bound]
  exact ((h.beginAll hscripts).keepUntil hscripts time p.bound).world.advanceTo hscripts time

end Play

namespace Theatre

/-- A session at its beginning, before all scenes. -/
def opening (renderer : Renderer) (period : Nat) : Theatre :=
  { subject := ⟨(Session.Run.start renderer period).session, false⟩ }

/-- Scenes are played one after another: when the operators of each were told what. -/
def performAll (script : Script Action) :
    Theatre → List (List (List Task)) → Theatre × List (List (List (Nat × Told)))
  | w, [] => (w, [])
  | w, tasks :: rest =>
    let (w, told) := w.perform script tasks
    let (w, later) := performAll script w rest
    (w, told :: later)

/-- The theatre at a time, in the scene that is played then. -/
def atTime (script : Script Action) (time : Nat) : Theatre → List (List (List Task)) → Theatre
  | w, [] => w.advanceTo Rehearsed.cast script time
  | w, tasks :: rest =>
    let next := (w.perform script tasks).1
    if next.now ≤ time then atTime script time next rest
    else (Play.ofTasks w tasks).stopAt script time

end Theatre

namespace World.Twins

variable {w v : Theatre}

theorem opening (tables : String → Prop) (renderer : Renderer) (period : Nat) :
    Twins tables (Theatre.opening renderer period) (Theatre.opening renderer period) := by
  have htended : Tended tables (Theatre.opening renderer period) := by
    refine ⟨fun p hp => ?_, fun f hf => by cases hf⟩
    simp only [Theatre.opening, (Session.Run.start_session renderer period).1] at hp
    cases hp
  exact ⟨rfl, .refl _, htended, htended⟩

/-- A session is in the same state in both theatres. -/
theorem state (h : Twins tables w v) : w.subject.state = v.subject.state := by
  simp only [Rehearsed.state, h.alike.gone, h.alike.session.selection, h.alike.session.table]

theorem perform (h : Twins tables w v) (hscripts : Script.Agree tables a b)
    {tasks : List (List Task)} (htasks : ∀ lane ∈ tasks, ∀ task ∈ lane, task.Apart tables) :
    Twins tables (w.perform a tasks).1 (v.perform b tasks).1 ∧
      (w.perform a tasks).2 = (v.perform b tasks).2 := by
  have hrun := (Play.Twins.ofTasks h htasks).run hscripts
  have htold := congrArg (List.map fun o : Operator => o.told.reverse) hrun.operators
  exact ⟨hrun.world, htold⟩

theorem performAll (h : Twins tables w v) (hscripts : Script.Agree tables a b)
    {scenes : List (List (List Task))}
    (htasks : ∀ tasks ∈ scenes, ∀ lane ∈ tasks, ∀ task ∈ lane, task.Apart tables) :
    Twins tables (Theatre.performAll a w scenes).1 (Theatre.performAll b v scenes).1 ∧
      (Theatre.performAll a w scenes).2 = (Theatre.performAll b v scenes).2 := by
  induction scenes generalizing w v with
  | nil => exact ⟨h, rfl⟩
  | cons tasks rest ih =>
    obtain ⟨hfirst, hrest⟩ := List.forall_mem_cons.1 htasks
    obtain ⟨hnext, htold⟩ := h.perform hscripts hfirst
    obtain ⟨hlast, hlater⟩ := ih hnext hrest
    exact ⟨hlast, congrArg₂ List.cons htold hlater⟩

theorem atTime (h : Twins tables w v) (hscripts : Script.Agree tables a b)
    {scenes : List (List (List Task))}
    (htasks : ∀ tasks ∈ scenes, ∀ lane ∈ tasks, ∀ task ∈ lane, task.Apart tables) (time : Nat) :
    Twins tables (Theatre.atTime a time w scenes) (Theatre.atTime b time v scenes) := by
  induction scenes generalizing w v with
  | nil => exact h.advanceTo hscripts time
  | cons tasks rest ih =>
    obtain ⟨hfirst, hrest⟩ := List.forall_mem_cons.1 htasks
    obtain ⟨hnext, _⟩ := h.perform hscripts hfirst
    simp only [Theatre.atTime, ← hnext.now]
    split
    · exact ih hnext hrest
    · exact (Play.Twins.ofTasks h hfirst).stopAt hscripts time

end World.Twins

/-! ## Independence -/

/-- Some operators and two daemons, with the tables that may be watched: the daemons answer all but
the queries about these tables alike, and nothing is done while such an answer is on the way; the
operators do not send such a query themselves. -/
structure Independent (tables : String → Prop) (scenes : List (List (List Task)))
    (a b : Script Action) : Prop where
  scripts : Script.Agree tables a b
  tasks : ∀ tasks ∈ scenes, ∀ lane ∈ tasks, ∀ task ∈ lane, task.Apart tables

/-- A daemon whose cues ask for nothing. -/
theorem Script.during_eq_none {script : Script Action}
    (hcues : ∀ entry ∈ script.cues, ∀ cue ∈ entry.2, cue.during = none)
    (hother : script.otherwise.during = none) (before : Nat) (query : String) :
    (script.cue before query).during = none := by
  unfold Script.cue
  cases hlookup : script.cues.lookup query with
  | none => exact hother
  | some cues =>
    obtain ⟨x, y, hentries, _⟩ := List.lookup_eq_some_iff.1 hlookup
    have hnone := hcues (query, cues) (by simp [hentries])
    dsimp only
    cases hbefore : cues[before]? with
    | some cue => exact hnone cue (List.mem_of_getElem? hbefore)
    | none =>
      cases hlast : cues.getLast? with
      | none => exact hother
      | some cue => exact hnone cue (List.mem_of_getLast? hlast)

/-- Another query is looked up among the other entries. -/
theorem Script.cue_cons_of_ne {query other : String} (h : other ≠ query) (cues : List (Cue Action))
    (rest : List (String × List (Cue Action))) (otherwise : Cue Action) (before : Nat) :
    Script.cue ⟨(query, cues) :: rest, otherwise⟩ before other =
      Script.cue ⟨rest, otherwise⟩ before other := by
  simp only [Script.cue, List.lookup_cons, beq_eq_false_iff_ne.2 h]

/-- What two daemons make no difference to. -/
structure Undisturbed (renderer : Renderer) (period : Nat) (scenes : List (List (List Task)))
    (a b : Script Action) : Prop where
  /-- what the operators are told, and when -/
  told : ((Theatre.opening renderer period).performAll a scenes).2 =
    ((Theatre.opening renderer period).performAll b scenes).2
  /-- when the last scene ends -/
  ended : ((Theatre.opening renderer period).performAll a scenes).1.now =
    ((Theatre.opening renderer period).performAll b scenes).1.now
  /-- the state of the session at every time -/
  state : ∀ time, ((Theatre.opening renderer period).atTime a time scenes).subject.state =
    ((Theatre.opening renderer period).atTime b time scenes).subject.state
  /-- what the panels other than the live one show, and when -/
  shown : ((Theatre.opening renderer period).performAll a scenes).1.shown.filter World.isApart =
    ((Theatre.opening renderer period).performAll b scenes).1.shown.filter World.isApart
  /-- and however the steps of pollers are interleaved with those of calls, the calls send, show and
  return the same, and the session is in the same state -/
  interleaved : ∀ x y : List Session.Move, x.filter (!·.isPoll) = y.filter (!·.isPoll) →
    Session.ofCalls (Session.Run.seen renderer period x) =
        Session.ofCalls (Session.Run.seen renderer period y) ∧
      (Session.Run.after renderer period x).session.selection =
        (Session.Run.after renderer period y).session.selection ∧
      (Session.Run.after renderer period x).session.live.table =
        (Session.Run.after renderer period y).session.live.table

end Rehearsal

open Rehearsal in
/-- Two daemons answer all queries alike, with the same delays, but for the queries of the live
view's pollers, which they answer in any way and at any time. Then for all operators who work side
by side, in one scene after another, and who do not send such a query themselves: each of them is told
the same at the same times, the session is in the same state at every time, and all panels but the
live one show the same at the same times. Nor does it matter to the calls of a session in which order
their moves and the steps of its pollers come. -/
theorem polls_do_not_interfere (renderer : Renderer) (period : Nat) (tables : String → Prop)
    (scenes : List (List (List Task))) (a b : Script Session.Action)
    (h : Independent tables scenes a b) : Undisturbed renderer period scenes a b where
  told := ((World.Twins.opening tables renderer period).performAll h.scripts h.tasks).2
  ended := ((World.Twins.opening tables renderer period).performAll h.scripts h.tasks).1.now
  state time := ((World.Twins.opening tables renderer period).atTime h.scripts h.tasks time).state
  shown := ((World.Twins.opening tables renderer period).performAll h.scripts h.tasks).1.alike.shown
  interleaved x y hcalls := by
    have hstart : (Session.Run.start renderer period).Alike (Session.Run.start renderer period) :=
      ⟨.refl _, rfl, rfl⟩
    obtain ⟨halike, hevents⟩ := Session.Run.exec_alike hstart hcalls
    exact ⟨hevents, halike.session.selection, halike.session.table⟩

open Rehearsal in
/-- While a table is watched, a database is created and another operator changes to one. To the polls
one daemon answers late and the other one fails. -/
theorem polls_do_not_interfere_late :
    let scenes : List (List (List Task)) := [[[.act (.select "t")]], [[.sleep 2100]],
      [[.act (.create "audit")], [.sleep 40, .act (.use "shop")]], [[.sleep 3000]]]
    let others : List (String × List (Cue Session.Action)) :=
      [("\\dc", [⟨.ok (.listing [⟨"shop", ["t"]⟩]), 300, none⟩])]
    let late : Script Session.Action :=
      ⟨("SELECT * FROM t;", [⟨.ok (.tabular []), 1500, none⟩]) :: others,
        ⟨.ok (.tabular []), 50, none⟩⟩
    let failing : Script Session.Action :=
      ⟨("SELECT * FROM t;", [⟨.error (.io "reset"), 0, none⟩]) :: others,
        ⟨.ok (.tabular []), 50, none⟩⟩
    Independent (· = "t") scenes late failing ∧ Undisturbed .html 0 scenes late failing := by
  intro scenes others late failing
  have hlate : ∀ before query, (late.cue before query).during = none :=
    Script.during_eq_none (by simp [late, others]) rfl
  have hfailing : ∀ before query, (failing.cue before query).during = none :=
    Script.during_eq_none (by simp [failing, others]) rfl
  have hindependent : Independent (· = "t") scenes late failing := by
    refine ⟨⟨fun query hquery before => ?_, ?_, ?_, ?_⟩, ?_⟩
    · have hother : query ≠ "SELECT * FROM t;" := fun he => hquery ⟨"t", rfl, he⟩
      exact (Script.cue_cons_of_ne hother _ others _ before).trans
        (Script.cue_cons_of_ne hother _ others _ before).symm
    · exact fun table _ before => hlate before _
    · exact fun table _ before => hfailing before _
    · intro before query action haction
      rw [hlate] at haction
      cases haction
    · have hselect : Apart (· = "t") (.select "t") :=
        ⟨fun name hname _ => (by cases hname; decide), fun text htext => by cases htext⟩
      have hcreate : Apart (· = "t") (.create "audit") :=
        ⟨fun name hname => (by cases hname), fun text htext => by cases htext⟩
      have huse : Apart (· = "t") (.use "shop") :=
        ⟨fun name hname => (by cases hname), fun text htext => by cases htext⟩
      simpa [scenes, Task.Apart] using And.intro hselect (And.intro hcreate huse)
  exact ⟨hindependent, polls_do_not_interfere .html 0 (· = "t") scenes late failing hindependent⟩

open Rehearsal in
/-- The state of a session while a call is under way, and after it. -/
example :
    let scenes : List (List (List Task)) := [[[.act (.select "t")]], [[.act (.use "shop")]]]
    let script : Script Session.Action := ⟨[], ⟨.ok (.tabular []), 1500, none⟩⟩
    let opening := Theatre.opening .html 0
    (opening.atTime script 1499 scenes).subject.state = some (⟨none, some "t", .live⟩, some "t") ∧
      (opening.atTime script 1500 scenes).subject.state =
        some (⟨some "shop", none, .live⟩, none) := by
  decide +kernel

end QueryConsole
