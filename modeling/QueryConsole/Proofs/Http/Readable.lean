import QueryConsole.Proofs.Http.Fault
import QueryConsole.Proofs.Http.Relay
import QueryConsole.Proofs.Json.Refusals

/-!
# What the client can read of the relay

The relay passes on what it has checked, and reports a fault where there is nothing to pass on. The
client reads every report. It reads a body that was passed on if the body decodes, and the check
does not promise that: a body may pass it and still be beyond what the full reader takes.

## Main definitions

- `Http.Router.exchange`: what the relay sees of a query
- `Http.Relayed`: what the client makes of a query, told by what the relay saw

## Main results

- `Http.Router.send_eq_read`: the client reads the answer that the relay made
- `relay_read_unless_beyond_grammar`: what becomes of every query
- `garbled_answer_unread`: an answer that the relay certifies and the client cannot read
-/

namespace QueryConsole

namespace Http

/-- What a client makes of a query that was relayed, told by what the relay saw of it. -/
structure Relayed (timeout : Nat) (exchange : Exchange) (outcome : Outcome) : Prop where
  /-- a fault is reported, and the report is read -/
  reported : ∀ fault, Relay.check timeout exchange = .error fault →
    outcome = .ok (.failure fault.message)
  /-- a body that decodes is passed on, and is read as from the daemon itself -/
  read : ∀ answer v, exchange = .answered answer → Json.decode answer.body = .ok v →
    outcome = .ok (.discriminate v)
  /-- a body that passes the check and does not decode is passed on, and is not read -/
  unread : ∀ answer fault, exchange = .answered answer → Json.check answer.body = .ok () →
    Json.decode answer.body = .error fault → outcome = .error (.http network)
  /-- nothing else is left unread, and then the body follows the grammar but is beyond it -/
  only : ∀ e, outcome = .error e → ∃ answer fault, exchange = .answered answer ∧
    Json.check answer.body = .ok () ∧ Json.decode answer.body = .error fault ∧
    fault.flaw.isBeyondGrammar = true

namespace Router

variable {router : Router} {state : Supervisor.State}

/-- What the relay sees of a query that is posted to the web server after some others. -/
def exchange (router : Router) (state : Supervisor.State) (posted : History)
    (query : List UInt8) : Exchange :=
  (router.wire.post (router.forwarded state posted) query).2.within router.timeout

/-- How many milliseconds the relay waits for the daemon then. -/
def waiting (router : Router) (state : Supervisor.State) (posted : History)
    (query : List UInt8) : Nat :=
  (router.wire.post (router.forwarded state posted) query).2.wait router.timeout

/-- The client reads the answer that the relay made of the exchange. -/
theorem send_eq_read {client : Client} {lag : Nat} {posted : History} {text : String}
    (hsize : (Utf8.bytesOf text).length ≤ largestQuery)
    (htime : router.waiting state posted (Utf8.bytesOf text) + lag ≤ client.timeout) :
    (client.send (router.asWire state lag) posted text).2 = Client.read (.answered
      ((Relay.answerOf router.timeout
        (router.exchange state posted (Utf8.bytesOf text))).adding readable)) := by
  have hposts := Request.posting_posts (Utf8.bytesOf text)
  have hendpoint : (router.asWire state lag).endpoint posted (Utf8.bytesOf text) =
      .answer (router.waiting state posted (Utf8.bytesOf text) + lag)
        ((Relay.answerOf router.timeout
          (router.exchange state posted (Utf8.bytesOf text))).adding readable) := by
    simp only [asWire, if_pos hsize, handle_of_posts hposts hsize, waiting, exchange]
  rw [send_of_answer rfl hendpoint htime]

end Router

namespace Relay

variable {timeout : Nat} {answer : Answer} {headers : List (String × String)}

/-- A body that passes the check is read as from the daemon itself. -/
theorem read_answerOf (hcheck : Json.check answer.body = .ok ()) :
    Client.read (.answered ((answerOf timeout (.answered answer)).adding headers)) =
      Client.read (.answered answer) := by
  rw [answerOf_of_check hcheck]
  exact Router.read_eq_of_body rfl

theorem read_answerOf_fault {e : Exchange} {fault : Fault}
    (hcheck : check timeout e = .error fault) :
    Client.read (.answered ((answerOf timeout e).adding headers)) =
      .ok (.failure fault.message) := by
  rw [answerOf_of_fault hcheck]
  exact read_answer fault headers

/-- What the client reads of the relay's answer. -/
theorem relayed (e : Exchange) (headers : List (String × String)) :
    Relayed timeout e (Client.read (.answered ((answerOf timeout e).adding headers))) where
  reported := fun fault hfault => read_answerOf_fault hfault
  read := by
    rintro answer v rfl hdecode
    rw [read_answerOf (Json.check_of_decode hdecode)]
    simp only [Client.read, Json.decode?, hdecode, Except.toOption]
  unread := by
    rintro answer fault rfl hcheck hdecode
    rw [read_answerOf hcheck]
    simp only [Client.read, Json.decode?, hdecode, Except.toOption]
  only := by
    intro err herr
    obtain ⟨fault, hfault⟩ | ⟨answer, rfl, hcheck⟩ := check_cases timeout e
    · rw [read_answerOf_fault hfault] at herr
      cases herr
    · rw [read_answerOf hcheck] at herr
      cases hdecode : Json.decode answer.body with
      | ok v =>
        simp only [Client.read, Json.decode?, hdecode, Except.toOption] at herr
        cases herr
      | error fault =>
        -- the check refuses what does not decode, unless the flaw is beyond grammar
        obtain hbeyond | hrefused := Json.check_of_decode_error hdecode
        · exact ⟨answer, fault, rfl, hcheck, hdecode, hbeyond⟩
        · rw [hcheck] at hrefused
          cases hrefused

end Relay

end Http

open Http in
/-- Whatever has been posted to the web server before, and whatever the daemon does with a query
that is not too large: when the web server answers in time for the client, the client reads a reply,
unless the daemon answered with a body that follows the grammar of JSON and is beyond what the
client can read. Then the relay passes the body on as checked, and to the client it is as though the
network had failed. -/
theorem relay_read_unless_beyond_grammar (router : Router) (state : Supervisor.State)
    (client : Client) (lag : Nat) (posted : History) (query : String)
    (hsize : (Utf8.bytesOf query).length ≤ 2097152)
    (htime : router.waiting state posted (Utf8.bytesOf query) + lag ≤ client.timeout) :
    Relayed router.timeout (router.exchange state posted (Utf8.bytesOf query))
      (client.send (router.asWire state lag) posted query).2 := by
  rw [Router.send_eq_read hsize htime]
  exact Relay.relayed _ _

open Http in
/-- A web server without files, before a daemon that answers everything in the same way. -/
def routerBefore (answer : Answer) : Router where
  site := ⟨"", .directory [], 0⟩
  wire := ⟨true, fun _ _ => .answer 20 answer⟩
  timeout := 1000
  gzip := id

open Http in
/-- A page of HTML is no JSON: the client reads where that shows. -/
theorem relay_read_page :
    ((Client.mk "http://localhost/query" 500).send
      ((routerBefore ⟨404, [], Utf8.bytesOf "<html>"⟩).asWire .running 3)
      [Utf8.bytesOf "SELECT 0;"] "SELECT 1;").2 = .ok (.failure
        (Relay.Fault.malformed "body is not JSON (expected value at line 1 column 1)").message) := by
  have hsize : (Utf8.bytesOf "SELECT 1;").length ≤ 2097152 := by decide +kernel
  have hrelayed := relay_read_unless_beyond_grammar (routerBefore ⟨404, [], Utf8.bytesOf "<html>"⟩)
    .running ⟨"http://localhost/query", 500⟩ 3 [Utf8.bytesOf "SELECT 0;"] "SELECT 1;" hsize
    (by decide +kernel)
  exact hrelayed.reported _ (by decide +kernel)

open Http in
/-- A text of one byte that is not UTF-8: the relay passes it on with status 200 as checked JSON, and
to the client the network has failed. -/
theorem garbled_answer_unread :
    ((routerBefore ⟨200, [], [0x22, 0xFF, 0x22]⟩).handle .running []
      (.posting (Utf8.bytesOf "SELECT 1;"))).2 =
        (Answer.content 200 Relay.jsonType [0x22, 0xFF, 0x22]).adding Router.readable ∧
    ((Client.mk "http://localhost/query" 500).send
      ((routerBefore ⟨200, [], [0x22, 0xFF, 0x22]⟩).asWire .running 3) [] "SELECT 1;").2 =
        .error (.http network) := by
  have hsize : (Utf8.bytesOf "SELECT 1;").length ≤ Router.largestQuery := by decide +kernel
  constructor
  · rw [Router.handle_of_posts (Request.posting_posts _) hsize]
    rfl
  · rw [Router.send_eq_read hsize (by decide +kernel)]
    rfl

end QueryConsole
