import QueryConsole.Http.Client
import QueryConsole.Http.Relay
import QueryConsole.Presentation
import QueryConsole.Proofs.Json.Written

/-!
# Errors of the relay

When the relay has no daemon answer to pass on, it says so in an answer of its own. The client reads
that answer as a failure, and every renderer shows the failure, with the wording of the fault
throughout. No character of it is lost or changed on the way, whatever the wording is.

## Main definitions

- `Http.Relay.Fault.report`: the object that tells about a fault

## Main results

- `Http.Relay.check_cases`: either there is a fault, or an answer is handed on
- `Http.Relay.decode_answer`: the body of the answer is read back as the object that was written
- `Http.Relay.read_answer`: the client reads the wording of the fault
- `relay_faults_arrive`: from the fault to what is shown
-/

namespace QueryConsole

namespace Http

namespace Relay

/-! ## What the relay answers -/

/-- What was not reported as a fault is an answer whose body passes the check. -/
theorem check_cases (timeout : Nat) (e : Exchange) : (∃ fault, check timeout e = .error fault) ∨
    ∃ answer, e = .answered answer ∧ Json.check answer.body = .ok () := by
  cases e with
  | failed => exact .inl ⟨_, rfl⟩
  | timedOut => exact .inl ⟨_, rfl⟩
  | answered answer =>
    cases hcheck : Json.check answer.body with
    | ok u => exact .inr ⟨answer, rfl, hcheck⟩
    | error f =>
      refine .inl ⟨.malformed s!"body is not JSON ({f.message answer.body})", ?_⟩
      simp only [check, hcheck]

/-- An answer whose body passes the check is handed on. -/
theorem answerOf_of_check {timeout : Nat} {a : Answer} (h : Json.check a.body = .ok ()) :
    answerOf timeout (.answered a) = .content a.status jsonType a.body := by
  simp only [answerOf, check, h]

/-- A fault is answered as such. -/
theorem answerOf_of_fault {timeout : Nat} {e : Exchange} {fault : Fault}
    (h : check timeout e = .error fault) : answerOf timeout e = fault.answer := by
  rw [answerOf, h]

/-! ## What is read of a fault -/

/-- The object that tells the console about a fault. -/
def Fault.report (f : Fault) : Json :=
  .object [("status", .text "error"), ("message", .text f.message)]

/-- The object is read back from the answer as it was written. -/
theorem decode_answer (f : Fault) (headers : List (String × String)) :
    Json.decode (f.answer.adding headers).body = .ok f.report := by
  have hkey : "status" ≠ Json.embeddedKey := by decide
  have hkeys : ["status", "message"].Nodup := by decide
  have hread : Json.decode (Utf8.bytesOf (Json.ofTexts
      [("status", "error"), ("message", f.message)]).render) =
        .ok (Json.ofTexts [("status", "error"), ("message", f.message)]) :=
    Json.decode_ofTexts hkey hkeys
  exact hread

/-- The object counts as a failure, with its message as the daemon's word. -/
theorem discriminate_report (f : Fault) : Reply.discriminate f.report = .failure f.message := by
  have hresponse : Response.ofJson f.report =
      .ok { status := some "error", message := some f.message } := rfl
  rw [Reply.discriminate, hresponse]
  rfl

/-- The client reads the wording of the fault. -/
theorem read_answer (f : Fault) (headers : List (String × String)) :
    Client.read (.answered (f.answer.adding headers)) = .ok (.failure f.message) := by
  have hdecode : Json.decode? (f.answer.adding headers).body = some f.report := by
    rw [Json.decode?, decode_answer]
    rfl
  simp only [Client.read, hdecode, discriminate_report]

end Relay

end Http

open Http in
/-- Every fault is answered with status 500. The body of that answer decodes to a value that counts
as a failure with the wording of the fault; this is what the client reads; and this wording is what
each renderer shows of it, as an error. -/
theorem relay_faults_arrive (f : Relay.Fault) (headers : List (String × String)) :
    (f.answer.adding headers).status = 500 ∧
    (∃ v, Json.decode (f.answer.adding headers).body = .ok v ∧
      Reply.discriminate v = .failure f.message) ∧
    Client.read (.answered (f.answer.adding headers)) = .ok (.failure f.message) ∧
    ∀ renderer : Renderer,
      (Client.read (.answered (f.answer.adding headers))).map renderer.render =
        .ok (some (.error f.message)) := by
  have hread := Relay.read_answer f headers
  refine ⟨rfl, ⟨f.report, Relay.decode_answer f headers, Relay.discriminate_report f⟩, hread, ?_⟩
  intro renderer
  rw [hread]
  cases renderer <;> rfl

end QueryConsole
