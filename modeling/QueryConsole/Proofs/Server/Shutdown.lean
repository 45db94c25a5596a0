import QueryConsole.Proofs.Http.Forwarding
import QueryConsole.Proofs.Server.Requests
import QueryConsole.Proofs.Server.Stop

/-!
# Shutting down in order

When the server is told to shut down, the daemon is stopped and reaped first, and then the listener
is closed. Until then requests are accepted as before, and all that were accepted are answered
before the server is over. In the end the server says how the daemon ended. But if the daemon ends
when the call that stops it has looked at the state and has not yet written it, the daemon is said
to be stopping when the listener is closed, and for ever.

## Main definitions

- `Server.Ends`: the server can still come to its end
- `Http.Router.TellsHealth`: an answer says that the server is well, and how the daemon is
- `Server.Shutdown`: what is kept in order, for a run

## Main results

- `Server.ends_after`: a server that was told to shut down can always come to its end
- `shutdown_in_order`: every run keeps the order, and how the daemon is said to be at the end of it
- `closed_while_stopping`: the listener is closed while the daemon is said to be stopping
-/

namespace QueryConsole

open Http (Request Answer Router)

namespace Supervisor

variable {s : Supervisor} {call child : Nat} {c : Call}

/-! ## The way to the end of a call -/

/-- How many steps a call that stops the daemon has still to take, at most. -/
def Call.ahead : Call → Nat
  | .stopping => 6
  | .taking => 5
  | .looking _ => 4
  | .noting _ => 3
  | .telling _ => 2
  | .awaiting _ => 1
  | _ => 0

/-- Each step of a call that stops the daemon brings it nearer to its end, if what it waits for is
there. -/
theorem callStep_ahead (hcall : s.calls[call]? = some c) (hc : 0 < c.ahead)
    (hlock : s.locked = c.works)
    (hfound : ∀ child, c = .awaiting child → ∃ status, s.result? child = some status)
    (spawn : Spawn) :
    ∃ d, (s.callStep call spawn).1.calls[call]? = some d ∧ d.ahead < c.ahead := by
  have hset : ∀ d, (s.calls.set call d)[call]? = some d := fun d =>
    List.getElem?_set_self (List.getElem?_eq_some_iff.1 hcall).1
  rw [callStep.eq_def, hcall]
  cases c with
  | stopping =>
    simp only [show s.locked = false from hlock]
    exact ⟨.taking, hset _, by decide⟩
  | taking =>
    cases hhandle : s.handle with
    | none => exact ⟨_, hset _, by simp [Call.ahead]⟩
    | some child => exact ⟨.looking child, hset _, by simp [Call.ahead]⟩
  | looking child =>
    refine ⟨_, hset _, ?_⟩
    split <;> simp [Call.ahead]
  | noting child => exact ⟨_, hset _, by simp [Call.ahead]⟩
  | telling child => exact ⟨_, hset _, by simp [Call.ahead]⟩
  | awaiting child =>
    obtain ⟨status, hresult⟩ := hfound child rfl
    simp only [hresult]
    exact ⟨_, hset _, by simp [Call.ahead]⟩
  | _ => simp [Call.ahead] at hc

/-- A process can end, and then the watch at work over it finds how it ended. -/
theorem result?_idle {c : Child} (hchild : s.children[child]? = some c)
    (hbusy : c.watch.stage = .busy) : ∃ status,
    (s.idle [.exit child (.code 0), .watch child false, .watch child false]).result? child =
      some status := by
  obtain ⟨ended, told, watch⟩ := c
  cases watch with
  | idle | finished => cases hbusy
  | reaped status =>
    simp [idle, runSteps, step, Aside.move, exit, change, watchStep, write, hchild, result?]
  | _ =>
    cases ended <;>
      simp [idle, runSteps, step, Aside.move, exit, change, watchStep, write, hchild, result?, reap]

theorem Halting.eq_stopped {stuck : Bool} (h : s.Halting stuck c) (hc : c.ahead = 0) :
    ∃ result, c = .stopped result := by
  cases h with
  | nothing => exact ⟨none, rfl⟩
  | @stopped _ _ status => exact ⟨some status, rfl⟩
  | _ => simp [Call.ahead] at hc

/-- The watch that the call waits for is at work, or it has found something. -/
theorem Halting.awaited_or_busy {stuck : Bool} (h : s.Halting stuck (.awaiting child)) :
    (∃ status, s.result? child = some status) ∨
      ∃ c, s.children[child]? = some c ∧ c.watch.stage = .busy := by
  cases h with
  | @awaiting n h =>
    have hbusy : s.stages[child]? = some .busy := by
      rw [h.stages]
      simp
    rw [stages, List.getElem?_map] at hbusy
    exact .inr (Option.map_eq_some_iff.1 hbusy)
  | @awaited stuck n h =>
    refine .inl (result?_of_stages ?_)
    rw [h.stages]
    simp [dones]

end Supervisor

namespace Server

open Supervisor (reached)

variable {setup : Setup} {earlier : List Supervisor.Move} {moves : List Move} {call : Nat}
  {c : Supervisor.Call} {result : Option Supervisor.ExitStatus}

/-! ## Coming to the end -/

/-- The server can still come to its end. -/
def Ends (setup : Setup) (earlier : List Supervisor.Move) (moves : List Move) : Prop :=
  ∃ later result, (after setup earlier (moves ++ later)).phase = .ended result

theorem Ends.of_append {later : List Move} (h : Ends setup earlier (moves ++ later)) :
    Ends setup earlier moves := by
  obtain ⟨latest, result, hended⟩ := h
  exact ⟨later ++ latest, result, by rwa [← List.append_assoc]⟩

/-- Once the listener is closed, the requests under way are answered one after the other. -/
theorem ends_of_draining (hphase : (after setup earlier moves).phase = .draining result) :
    Ends setup earlier moves := by
  -- each answer leaves fewer requests under way
  induction hlength : (after setup earlier moves).underWay.length using Nat.strongRecOn
    generalizing moves with
  | ind length ih =>
    cases hunder : (after setup earlier moves).underWay with
    | nil =>
      refine ⟨[.finish], result, ?_⟩
      rw [after_concat]
      simp [step, hphase, hunder]
    | cons first rest =>
      obtain ⟨number, r⟩ := first
      have hstep : ((after setup earlier moves).step setup (.answer number)).1.phase =
            .draining result ∧
          ((after setup earlier moves).step setup (.answer number)).1.underWay =
            rest.filter (·.1 != number) := by
        simp [step, hunder, hphase]
      have hshorter : (rest.filter (·.1 != number)).length < length := by
        have hle := List.length_filter_le (·.1 != number) rest
        rw [hunder, List.length_cons] at hlength
        omega
      have hends : Ends setup earlier (moves ++ [.answer number]) := by
        refine ih _ hshorter ?_ ?_
        · rw [after_concat, hstep.1]
        · rw [after_concat, hstep.2]
      exact hends.of_append

/-- When the call to stop the daemon is over, the listener can be closed. -/
theorem ends_of_stopped (hphase : (after setup earlier moves).phase = .stopping call)
    (hcall : (after setup earlier moves).supervisor.calls[call]? = some (.stopped result)) :
    Ends setup earlier moves := by
  have hdraining : (after setup earlier (moves ++ [.close])).phase = .draining result := by
    rw [after_concat]
    simp [step, hphase, stopped?_eq_some_iff.2 hcall]
  exact (ends_of_draining hdraining).of_append

/-- While the call goes on, things are as it expects. -/
theorem halting_after (hquiet : (reached earlier).Quiet)
    (hphase : (after setup earlier moves).phase = .stopping call) :
    ∃ c, (after setup earlier moves).supervisor.calls[call]? = some c ∧
      (after setup earlier moves).supervisor.locked = c.works ∧
      ∃ stuck, (after setup earlier moves).supervisor.Halting stuck c := by
  cases course_after setup earlier moves with
  | serving hserving => cases hphase.symm.trans hserving
  | closed hclosed => simp [hphase] at hclosed
  | @stopping asides beats hstopping hleads =>
    cases hphase.symm.trans hstopping
    obtain ⟨c, hattended, hhalting⟩ := hleads.attended hquiet
    refine ⟨c, ?_, hattended.locked, hhalting⟩
    rw [← Supervisor.calls_idle (reached earlier) asides, hattended.getElem?]

/-- What the call waits for can come, while the call stays where it is. -/
theorem exists_found {stuck : Bool} (hphase : (after setup earlier moves).phase = .stopping call)
    (hcall : (after setup earlier moves).supervisor.calls[call]? = some c)
    (hhalting : (after setup earlier moves).supervisor.Halting stuck c) :
    ∃ later, (after setup earlier (moves ++ later)).phase = .stopping call ∧
      (after setup earlier (moves ++ later)).supervisor.calls[call]? = some c ∧
      ∀ child, c = .awaiting child → ∃ status,
        (after setup earlier (moves ++ later)).supervisor.result? child = some status := by
  by_cases hfound : ∀ child, c = .awaiting child → ∃ status,
      (after setup earlier moves).supervisor.result? child = some status
  · refine ⟨[], ?_⟩
    rw [List.append_nil]
    exact ⟨hphase, hcall, hfound⟩
  · obtain ⟨child, rfl, hnone⟩ : ∃ child, c = .awaiting child ∧ ¬ ∃ status,
        (after setup earlier moves).supervisor.result? child = some status := by
      simpa using hfound
    obtain ⟨d, hd, hbusy⟩ := hhalting.awaited_or_busy.resolve_left hnone
    refine ⟨[.exit child (.code 0), .watch child false, .watch child false], ?_⟩
    have hidle : (after setup earlier (moves ++ [.exit child (.code 0), .watch child false,
        .watch child false])).supervisor = (after setup earlier moves).supervisor.idle
          [.exit child (.code 0), .watch child false, .watch child false] := by
      rw [after_append]
      rfl
    rw [hidle, Supervisor.calls_idle, after_append]
    refine ⟨hphase, hcall, ?_⟩
    rintro other ⟨⟩
    exact Supervisor.result?_idle hd hbusy

/-- The call takes a step, if what it waits for is there. -/
theorem goes_on (hquiet : (reached earlier).Quiet)
    (hphase : (after setup earlier moves).phase = .stopping call)
    (hcall : (after setup earlier moves).supervisor.calls[call]? = some c) (hc : 0 < c.ahead)
    (hfound : ∀ child, c = .awaiting child → ∃ status,
      (after setup earlier moves).supervisor.result? child = some status) :
    (after setup earlier (moves ++ [.stop])).phase = .stopping call ∧
      ∃ d, (after setup earlier (moves ++ [.stop])).supervisor.calls[call]? = some d ∧
        d.ahead < c.ahead := by
  obtain ⟨c', hcall', hlock, -⟩ := halting_after hquiet hphase
  cases hcall.symm.trans hcall'
  have hstep : after setup earlier (moves ++ [.stop]) =
      ((after setup earlier moves).take (.call call (.ok ()))).1 := by
    rw [after_concat]
    simp only [step, hphase]
  rw [hstep]
  exact ⟨hphase, Supervisor.callStep_ahead hcall hc hlock hfound (.ok ())⟩

/-- The call that stops the daemon can come to its end. -/
theorem ends_of_stopping (hquiet : (reached earlier).Quiet)
    (hphase : (after setup earlier moves).phase = .stopping call)
    (hcall : (after setup earlier moves).supervisor.calls[call]? = some c) :
    Ends setup earlier moves := by
  -- each step of the call brings it nearer to its end
  induction hahead : c.ahead using Nat.strongRecOn generalizing moves c with
  | ind n ih =>
    subst hahead
    obtain ⟨c', hcall', -, stuck, hhalting⟩ := halting_after hquiet hphase
    cases hcall.symm.trans hcall'
    obtain hover | hc := Nat.eq_zero_or_pos c.ahead
    · obtain ⟨result, rfl⟩ := hhalting.eq_stopped hover
      exact ends_of_stopped hphase hcall
    · obtain ⟨later, hphase', hcall', hfound⟩ := exists_found hphase hcall hhalting
      obtain ⟨hphase'', d, hd, hnearer⟩ := goes_on hquiet hphase' hcall' hc hfound
      exact (ih _ hnearer hphase'' hd rfl).of_append.of_append

/-- A server that was told to shut down can always come to its end. -/
theorem ends_after (hquiet : (reached earlier).Quiet)
    (hphase : (after setup earlier moves).phase ≠ .serving) : Ends setup earlier moves := by
  cases hnow : (after setup earlier moves).phase with
  | serving => exact absurd hnow hphase
  | stopping call =>
    obtain ⟨c, hcall, -⟩ := halting_after hquiet hnow
    exact ends_of_stopping hquiet hnow hcall
  | draining result => exact ends_of_draining hnow
  | ended result => exact ⟨[], result, by rwa [List.append_nil]⟩

end Server

/-! ## Health -/

namespace Http.Router

variable {router : Router} {state : Supervisor.State} {history : History} {r : Request}

/-- An answer says that the server is well, and how the daemon is. -/
structure TellsHealth (router : Router) (r : Request) (state : Supervisor.State)
    (answer : Answer) : Prop where
  status : answer.status = 200
  type : answer.headers.lookup "content-type" = some "application/json"
  report : ∃ body, Json.decode body =
    .ok (.object [("status", .text "ok"), ("daemon", .text state.name)]) ∧
    router.Packs r body answer

theorem decode_health (state : Supervisor.State) : Json.decode (health state).body =
    .ok (.object [("status", .text "ok"), ("daemon", .text state.name)]) := by
  have hkey : "status" ≠ Json.embeddedKey := by decide
  have hkeys : ["status", "daemon"].Nodup := by decide
  have hread : Json.decode (Utf8.bytesOf (Json.ofTexts
      [("status", "ok"), ("daemon", state.name)]).render) =
        .ok (Json.ofTexts [("status", "ok"), ("daemon", state.name)]) :=
    Json.decode_ofTexts hkey hkeys
  exact hread

/-- Who asks for the health learns the state of the daemon. -/
theorem tellsHealth (hmethod : r.method = .get) (hpath : r.target.path = "/health".toList) :
    router.TellsHealth r state (router.handle state history r).2 := by
  have hroute : r.route = .health := by
    rw [Request.route, hpath]
    rfl
  have hcarries : ¬ r.Carries := by
    rintro ⟨hpost, -⟩
    rw [hmethod] at hpost
    cases hpost
  have hhead : r.method ≠ .head := by
    rw [hmethod]
    decide
  rw [handle_of_not_head hhead, plain_of_not_carries hcarries, hmethod, if_neg (by decide),
    unforwarded, hroute, hmethod]
  obtain ⟨hstatus, htype, hpacks⟩ := packs_json router r 200 (health state).body
  exact ⟨hstatus, htype, (health state).body, decode_health state, hpacks⟩

end Http.Router

namespace Server

open Supervisor (reached)

variable {setup : Setup} {earlier : List Supervisor.Move} {moves : List Move}

/-! ## The order -/

theorem closed_append (h : (after setup earlier moves).phase.isListening = false)
    (later : List Move) : (after setup earlier (moves ++ later)).phase.isListening = false := by
  induction later using List.reverseRecOn with
  | nil => rwa [List.append_nil]
  | append_singleton later m ih =>
    rw [← List.append_assoc, after_concat]
    have hwent := went setup (after setup earlier (moves ++ later)) m
    generalize (after setup earlier (moves ++ later)).step setup m = result at hwent
    cases hwent with
    | signals hphase =>
      rw [hphase] at ih
      cases ih
    | closes hphase hcall => rfl
    | finishes hphase hempty => rfl
    | _ => exact ih

theorem step_request (s : Server) (r : Request) : (s.step setup (.request r)).2 =
    [if s.phase.isListening then .accepted s.arrived else .refused s.arrived] := by
  by_cases hlistening : s.phase.isListening = true <;> simp [step, hlistening]

theorem answers_le_one (number : Nat) :
    (record setup earlier moves).countP (Event.answers number) ≤ 1 := by
  have honce := (ledger_after setup earlier moves).once number
  have hbalance := (ledger_after setup earlier moves).balance number
  omega

/-- What a run of the server keeps in order, after some steps of the supervisor. -/
structure Shutdown (setup : Setup) (earlier : List Supervisor.Move) (moves : List Move) :
    Prop where
  /-- when the listener is closed, every process is reaped -/
  reaped : (after setup earlier moves).phase.isListening = false →
    ∀ c ∈ (after setup earlier moves).supervisor.children, c.isUnreaped = false
  /-- and the daemon is stopped, unless it has ended when the call that stops it had looked at the
  state and had not yet written it, or was left so before -/
  state : (after setup earlier moves).phase.isListening = false →
    ((after setup earlier moves).supervisor.state = .stopped ↔
      (reached earlier).state ≠ .stopping ∧ ¬ Overtaken setup earlier moves)
  /-- the listener stays closed -/
  final : (after setup earlier moves).phase.isListening = false → ∀ later,
    (after setup earlier (moves ++ later)).phase.isListening = false
  /-- a request that arrives is accepted exactly if the listener is not closed -/
  arrives : ∀ r, ((after setup earlier moves).step setup (.request r)).2 =
    [if (after setup earlier moves).phase.isListening then
        .accepted (after setup earlier moves).arrived
      else .refused (after setup earlier moves).arrived]
  /-- when the server is over, each accepted request has been answered, by what the router made of
  it at that moment -/
  answered : ∀ before r later result, moves = before ++ .request r :: later →
    (after setup earlier before).phase.isListening = true →
    (after setup earlier moves).phase = .ended result →
    ∃ a b, later = a ++ .answer (after setup earlier before).arrived :: b ∧
      ((after setup earlier (before ++ .request r :: a)).step setup
          (.answer (after setup earlier before).arrived)).2 =
        [.answered (after setup earlier before).arrived
          (setup.router.handle (after setup earlier (before ++ .request r :: a)).supervisor.state
            (after setup earlier (before ++ .request r :: a)).history r).2]
  /-- no request is answered twice -/
  once : ∀ number, (record setup earlier moves).countP (Event.answers number) ≤ 1
  /-- who asks for the health learns the state of the daemon at the moment of the answer -/
  health : ∀ number r, (after setup earlier moves).underWay.lookup number = some r →
    r.method = .get → r.target.path = "/health".toList →
    ∃ answer, ((after setup earlier moves).step setup (.answer number)).2 =
        [.answered number answer] ∧
      setup.router.TellsHealth r (after setup earlier moves).supervisor.state answer
  /-- a process is killed only when it has been asked to end and has had its time -/
  killed : ∀ m child time, .daemon time (.signalled child Supervisor.kill) ∈
      ((after setup earlier moves).step setup m).2 →
    m = .expire child ∧ ∃ asked, asked + setup.stopTimeout ≤ time ∧
      .daemon asked (.signalled child Supervisor.terminate) ∈ record setup earlier moves
  /-- in the end the server tells how a daemon ended exactly if a start has succeeded, and nothing
  has returned since but starts that were refused -/
  told : ∀ result, Tells setup earlier moves result →
    (result.isSome = true ↔ Supervisor.Owed (Supervisor.returns {} earlier))
  /-- and that is how the last daemon really ended -/
  exit : ∀ status, Tells setup earlier moves (some status) → ∃ c,
    (after setup earlier moves).supervisor.children.getLast? = some c ∧ c.ended = some status
  /-- a server that was told to shut down can always come to its end -/
  ends : (after setup earlier moves).phase ≠ .serving → Ends setup earlier moves

end Server

open Server

/-- Whatever the supervisor has done before, if all calls are over, and whatever the daemon does,
whichever requests arrive and in whatever order all steps are taken: when the listener is closed,
the daemon is reaped. It is also said to be stopped, unless it has ended between the look at the
state and the write of the call that stops it. Until the listener is closed requests are accepted,
and all that were accepted have been answered when the server is over. A process is killed only when
it was asked to end and has had its time. In the end the server tells how the last daemon really
ended, exactly if a start has succeeded and nothing has returned since but refused starts. -/
theorem shutdown_unless_overtaken (setup : Setup) (earlier : List Supervisor.Move)
    (moves : List Move) (hquiet : (Supervisor.reached earlier).Quiet) :
    Shutdown setup earlier moves where
  reaped hclosed := by
    obtain ⟨result, htells⟩ := tells_of_closed hclosed
    exact (htells.leaves hquiet).reaped
  state hclosed := by
    obtain ⟨result, htells⟩ := tells_of_closed hclosed
    exact (htells.leaves hquiet).state
  final := closed_append
  arrives := step_request _
  answered := by
    rintro before r later result rfl hlistening hended
    exact answered_of_ended hlistening hended
  once := answers_le_one
  health number r hrequest hmethod hpath :=
    ⟨_, step_answer hrequest, Http.Router.tellsHealth hmethod hpath⟩
  killed _ _ _ := killed_step
  told _ htells := (htells.leaves hquiet).owed
  exit status htells := (htells.leaves hquiet).last status rfl
  ends := ends_after hquiet

/-- A server without files, whose daemon cannot be reached and has two seconds to end. -/
def Server.bareSetup : Setup :=
  ⟨⟨⟨"", .directory [], 0⟩, ⟨false, fun _ _ => .silence⟩, 1000, id⟩, 2000⟩

/-- A daemon that was started and does not end in its time is killed, and only then is the listener
closed. -/
theorem shutdown_of_stubborn_daemon :
    let earlier := Supervisor.Move.start :: List.replicate 7 (.call 0 (.ok ()))
    let moves := [Move.signal, .stop, .stop, .stop, .stop, .stop, .watch 0 true, .pass 1999,
      .expire 0, .pass 1, .expire 0, .exit 0 (.signal 9), .watch 0 false, .stop, .close,
      .watch 0 false, .stop, .close, .finish]
    Shutdown bareSetup earlier moves ∧
      record bareSetup earlier moves = [.daemon 0 (.state .stopping), .daemon 0 (.signalled 0 15),
        .daemon 2000 (.signalled 0 9), .daemon 2000 (.reaped 0 (.signal 9)),
        .daemon 2000 (.state .stopped)] ∧
      (after bareSetup earlier moves).phase = .ended (some (.signal 9)) :=
  ⟨shutdown_unless_overtaken _ _ _ (by decide), by decide, by decide⟩

/-- A daemon that was started ends by itself when the server was told to shut down, just when the
call that stops it has found that it is running. When the listener is closed, the daemon is said to
be stopping. -/
theorem closed_while_stopping :
    let s := after bareSetup (Supervisor.Move.start :: List.replicate 7 (.call 0 (.ok ())))
      [.signal, .stop, .stop, .stop, .exit 0 (.code 0), .watch 0 false, .watch 0 false, .stop,
        .stop, .stop, .close]
    s.phase = .draining (some (.code 0)) ∧ s.phase.isListening = false ∧
      s.supervisor.state = .stopping := by
  decide

end QueryConsole
