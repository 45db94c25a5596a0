import QueryConsole.Http.Client
import QueryConsole.Http.Router
import QueryConsole.Proofs.Json.Readers

/-!
# The relay is transparent

A client may ask the daemon itself, or post its query to the web server, which relays it. The web
server with its way to the daemon is a way to the daemon again, so the same client can use either.
Whatever answer the client could read from the daemon itself, it reads from the web server.

## Main definitions

- `Http.Request.Posts`: a request posts a query to the web server
- `Http.Router.asWire`: the way to the daemon through the web server

## Main results

- `Http.Router.handle_of_not_head`: an answer is packed after it was made
- `Http.Router.handle_of_answer`: an answer whose body passes the check is handed on
- `Http.Router.send_asWire`: a client reads the daemon's answer from the web server
- `Http.Router.sendAll_asWire`: the same of queries sent one after another
- `relay_transparent`: what the client reads from the daemon itself, it reads from the web server
-/

namespace QueryConsole

namespace Http

/-- How many milliseconds a sender waits who waits no longer than so many. -/
def Delivery.wait (timeout : Nat) : Delivery → Nat
  | .answer after _ => min after timeout
  | .broken after => min after timeout
  | .silence => timeout

/-- A request posts a query to the web server as the client does, which never wants an answer
packed. -/
structure Request.Posts (r : Request) (query : List UInt8) : Prop where
  method : r.method = .post
  path : r.target.path = "/query".toList
  body : r.body = query
  unpacked : r.wantsGzip = false

/-- The request by which a client posts a query to the web server. -/
def Request.posting (query : List UInt8) : Request where
  method := .post
  target := Target.parse "/query"
  headers := [("content-type", queryType)]
  body := query

theorem Request.posting_posts (query : List UInt8) : (posting query).Posts query := by
  have hpath : (Target.parse "/query").path = "/query".toList := by decide
  have hunpacked : (posting query).wantsGzip = false := by
    rw [Request.wantsGzip, Request.weight, Request.codings, Request.values]
    rfl
  exact ⟨rfl, hpath, rfl, hunpacked⟩

theorem Answer.coded_of_not_wanted {r : Request} (h : r.wantsGzip = false)
    (gzip : List UInt8 → List UInt8) (a : Answer) : a.coded gzip r = a := by
  rw [coded, if_neg]
  simp [h]

namespace Router

/-- The queries that the daemon has received when some were posted to the web server. -/
def forwarded (router : Router) (state : Supervisor.State) (posted : History) : History :=
  (router.handleAll state [] (posted.map Request.posting)).1

/-- The way to the daemon through the web server, which needs some milliseconds of its own for every
query. It answers as soon as the daemon has, or has let its time pass. -/
def asWire (router : Router) (state : Supervisor.State) (lag : Nat) : Wire where
  up := true
  endpoint posted query :=
    let received := router.forwarded state posted
    let waiting := if query.length ≤ largestQuery then
        (router.wire.post received query).2.wait router.timeout
      else 0
    .answer (waiting + lag) (router.handle state received (.posting query)).2

variable {router : Router} {state : Supervisor.State} {history : History} {query : List UInt8}

/-! ## Handing on -/

/-- The answer to any request but for the head alone is packed as it is. -/
theorem handle_of_not_head {r : Request} (h : r.method ≠ .head) :
    router.handle state history r = ((router.plain state history r).1,
      (router.plain state history r).2.coded router.gzip r) := by
  simp only [handle, if_neg h]

/-- A query that is posted and not too large is forwarded as it is. -/
theorem plain_of_forwarded {r : Request} (hmethod : r.method = .post)
    (hpath : r.target.path = "/query".toList) (hsize : r.body.length ≤ largestQuery) :
    router.plain state history r =
      ((router.wire.post history r.body).1,
        (Relay.answerOf router.timeout
          ((router.wire.post history r.body).2.within router.timeout)).adding readable) := by
  have hoptions : r.method ≠ .options := by
    rw [hmethod]
    decide
  have hroute : r.route = .query := if_pos hpath
  have hforwarded : isForwarded r = true := decide_eq_true ⟨hroute, hmethod, hsize⟩
  rw [plain, if_neg hoptions, if_pos hforwarded]
  rfl

/-- What the client posts is forwarded, and answered as it was made. -/
theorem handle_of_posts {r : Request} (hposts : r.Posts query)
    (hsize : query.length ≤ largestQuery) : router.handle state history r =
      ((router.wire.post history query).1,
        (Relay.answerOf router.timeout
          ((router.wire.post history query).2.within router.timeout)).adding readable) := by
  have hmethod : r.method ≠ .head := by
    rw [hposts.method]
    decide
  rw [← hposts.body] at hsize ⊢
  rw [handle_of_not_head hmethod, plain_of_forwarded hposts.method hposts.path hsize,
    Answer.coded_of_not_wanted hposts.unpacked]

/-- An answer of the daemon whose body passes the check is handed on with its status. -/
theorem handle_of_answer {r : Request} {after : Nat} {answer : Answer}
    (hposts : r.Posts query) (hup : router.wire.up = true) (hsize : query.length ≤ largestQuery)
    (hanswer : router.wire.endpoint history query = .answer after answer)
    (htime : after ≤ router.timeout) (hcheck : Json.check answer.body = .ok ()) :
    router.handle state history r = (history ++ [query],
      (Answer.content answer.status Relay.jsonType answer.body).adding readable) := by
  have hpost : router.wire.post history query = (history ++ [query], .answer after answer) := by
    rw [Wire.post, if_pos hup, hanswer]
  rw [handle_of_posts hposts hsize, hpost]
  simp only [Delivery.within, if_pos htime, Relay.answerOf, Relay.check, hcheck]

/-! ## Asking the daemon through the web server -/

/-- What a client makes of an answer depends on its body only. -/
theorem read_eq_of_body {a b : Answer} (h : a.body = b.body) :
    Client.read (.answered a) = Client.read (.answered b) := by
  simp only [Client.read, h]

/-- An answer that a client can read passes the check. -/
theorem check_of_read {a : Answer} {reply : Reply}
    (h : Client.read (.answered a) = .ok reply) : Json.check a.body = .ok () := by
  simp only [Client.read, Json.decode?] at h
  cases hdecode : Json.decode a.body with
  | error e =>
    rw [hdecode] at h
    cases h
  | ok v => exact Json.check_of_decode hdecode

/-- A client that asks in time reads the answer of an endpoint. -/
theorem send_of_answer {client : Client} {wire : Wire} {text : String} {after : Nat}
    {answer : Answer} (hup : wire.up = true)
    (hanswer : wire.endpoint history (Utf8.bytesOf text) = .answer after answer)
    (htime : after ≤ client.timeout) : client.send wire history text =
      (history ++ [Utf8.bytesOf text], Client.read (.answered answer)) := by
  have hpost : wire.post history (Utf8.bytesOf text) =
      (history ++ [Utf8.bytesOf text], .answer after answer) := by
    rw [Wire.post, if_pos hup, hanswer]
  simp only [Client.send, hpost, Delivery.within, if_pos htime]

/-- A client that asks the web server reads the daemon's answer, if it passes the check. -/
theorem send_asWire {client : Client} {lag after : Nat} {posted : History} {text : String}
    {answer : Answer} (hup : router.wire.up = true)
    (hsize : (Utf8.bytesOf text).length ≤ largestQuery)
    (hanswer : router.wire.endpoint (router.forwarded state posted) (Utf8.bytesOf text) =
      .answer after answer)
    (hrelay : after ≤ router.timeout) (hclient : after + lag ≤ client.timeout)
    (hcheck : Json.check answer.body = .ok ()) :
    client.send (router.asWire state lag) posted text =
      (posted ++ [Utf8.bytesOf text], Client.read (.answered answer)) := by
  have hposts := Request.posting_posts (Utf8.bytesOf text)
  have hendpoint : (router.asWire state lag).endpoint posted (Utf8.bytesOf text) =
      .answer (after + lag)
        ((Answer.content answer.status Relay.jsonType answer.body).adding readable) := by
    have hwait : (router.wire.post (router.forwarded state posted) (Utf8.bytesOf text)).2.wait
        router.timeout = after := by
      rw [Wire.post, if_pos hup, hanswer]
      exact Nat.min_eq_left hrelay
    simp only [asWire, if_pos hsize, hwait,
      handle_of_answer hposts hup hsize hanswer hrelay hcheck]
  rw [send_of_answer rfl hendpoint hclient]
  exact congrArg _ (read_eq_of_body rfl)

/-! ## Queries one after another -/

theorem handleAll_append (a b : List Request) : (router.handleAll state history (a ++ b)).1 =
    (router.handleAll state (router.handleAll state history a).1 b).1 := by
  induction a generalizing history with
  | nil => rfl
  | cons r rest ih => exact ih

/-- The daemon receives what is posted to the web server, unless it is too large. -/
theorem forwarded_concat {posted : History} (hup : router.wire.up = true)
    (hsize : query.length ≤ largestQuery) :
    router.forwarded state (posted ++ [query]) = router.forwarded state posted ++ [query] := by
  rw [forwarded, List.map_append, handleAll_append]
  show (router.handle state (router.forwarded state posted) (.posting query)).1 = _
  rw [handle_of_posts (Request.posting_posts query) hsize, Wire.post, if_pos hup]

/-- The daemon answers queries one after another, each in time for the web server and for the
client, and so that the client can read it. -/
inductive Answers (router : Router) (client : Client) (lag : Nat) : History → List String → Prop
  | nil {received : History} : Answers router client lag received []
  | cons {received : History} {text : String} {rest : List String} {after : Nat} {answer : Answer}
      {reply : Reply} (size : (Utf8.bytesOf text).length ≤ largestQuery)
      (answered : router.wire.endpoint received (Utf8.bytesOf text) = .answer after answer)
      (relayed : after ≤ router.timeout) (inTime : after + lag ≤ client.timeout)
      (readable : Client.read (.answered answer) = .ok reply)
      (later : Answers router client lag (received ++ [Utf8.bytesOf text]) rest) :
      Answers router client lag received (text :: rest)

/-- Queries that a client sends to the web server one after another have the same outcomes as those
that it sends to the daemon itself. -/
theorem sendAll_asWire {client : Client} {lag : Nat} {received : History} {texts : List String}
    (hup : router.wire.up = true) (h : Answers router client lag received texts)
    {posted : History} (hposted : router.forwarded state posted = received) :
    (client.sendAll (router.asWire state lag) posted texts).2 =
      (client.sendAll router.wire received texts).2 := by
  induction h generalizing posted with
  | nil => rfl
  | @cons received text rest after answer reply size answered relayed inTime readable later ih =>
    have hdirect := send_of_answer hup answered (Nat.le_trans (Nat.le_add_right _ _) inTime)
    have hcheck := check_of_read readable
    rw [← hposted] at answered
    have hthrough := send_asWire hup size answered relayed inTime hcheck
    have hlater : router.forwarded state (posted ++ [Utf8.bytesOf text]) =
        received ++ [Utf8.bytesOf text] := by
      rw [forwarded_concat hup size, hposted]
    simp only [Client.sendAll, hdirect, hthrough, ih hlater]

end Router

end Http

open Http in
/-- Every text that the client decodes passes the relay's check. And whatever has been posted to the
web server before, and whatever the daemon was asked before it is asked directly: when it answers a
query in both cases the same, in time for the web server and for the client, and the client can read
the answer from the daemon itself, then the client reads the same reply from the web server, and the
web server hands on the status and the body as they are. -/
theorem relay_transparent :
    (∀ bytes v, Json.decode bytes = .ok v → Json.check bytes = .ok ()) ∧
    ∀ (router : Router) (state : Supervisor.State) (client : Client) (lag after after' : Nat)
      (posted direct : History) (query : String) (answer : Answer) (reply : Reply),
      router.wire.up = true →
      (Utf8.bytesOf query).length ≤ 2097152 →
      router.wire.endpoint (router.forwarded state posted) (Utf8.bytesOf query) =
        .answer after answer →
      router.wire.endpoint direct (Utf8.bytesOf query) = .answer after' answer →
      after ≤ router.timeout → after + lag ≤ client.timeout →
      (client.send router.wire direct query).2 = .ok reply →
      (client.send (router.asWire state lag) posted query).2 = .ok reply ∧
      ∀ r : Request, r.Posts (Utf8.bytesOf query) →
        router.handle state (router.forwarded state posted) r =
          (router.forwarded state posted ++ [Utf8.bytesOf query],
            (Answer.content answer.status Relay.jsonType answer.body).adding Router.readable) := by
  refine ⟨fun bytes v h => Json.check_of_decode h, ?_⟩
  intro router state client lag after after' posted direct query answer reply hup hsize hanswer
    hdirect hrelay hclient hsend
  have hread : Client.read (.answered answer) = .ok reply := by
    by_cases htime : after' ≤ client.timeout
    · rw [Router.send_of_answer hup hdirect htime] at hsend
      exact hsend
    · have hlate : (client.send router.wire direct query).2 = .error (.http network) := by
        simp only [Client.send, Wire.post, if_pos hup, hdirect, Delivery.within, if_neg htime]
        rfl
      rw [hlate] at hsend
      cases hsend
  have hcheck := Router.check_of_read hread
  constructor
  · rw [Router.send_asWire hup hsize hanswer hrelay hclient hcheck]
    exact hread
  · intro r hposts
    exact Router.handle_of_answer hposts hup hsize hanswer hrelay hcheck

open Http in
/-- A web server without files, before a daemon that is busy: it takes 20 milliseconds to answer
`["success"]` to everything. -/
def busyRouter : Router where
  site := ⟨"", .directory [], 0⟩
  wire :=
    { up := true
      endpoint := fun _ _ => .answer 20
        ⟨503, [], [0x5B, 0x22, 0x73, 0x75, 0x63, 0x63, 0x65, 0x73, 0x73, 0x22, 0x5D]⟩ }
  timeout := 1000
  gzip := id

open Http in
/-- The client of a busy daemon reads an empty table, with the web server in between as without. -/
theorem relay_transparent_busy :
    Json.check [0x5B, 0x5D] = .ok () ∧
    ((Client.mk "http://localhost/query" 500).send busyRouter.wire [] "SELECT 1;").2 =
      .ok (.tabular []) ∧
    ((Client.mk "http://localhost/query" 500).send (busyRouter.asWire .running 3)
      [Utf8.bytesOf "SELECT 0;"] "SELECT 1;").2 = .ok (.tabular []) ∧
    (busyRouter.handle .running (busyRouter.forwarded .running [Utf8.bytesOf "SELECT 0;"])
      (.posting (Utf8.bytesOf "SELECT 1;"))).2.status = 503 := by
  have hsize : (Utf8.bytesOf "SELECT 1;").length ≤ 2097152 := by decide +kernel
  have hdirect : ((Client.mk "http://localhost/query" 500).send busyRouter.wire [] "SELECT 1;").2 =
      .ok (.tabular []) := rfl
  obtain ⟨hcheck, hrelay⟩ := relay_transparent
  have hthrough := hrelay busyRouter .running ⟨"http://localhost/query", 500⟩ 3 20 20
    [Utf8.bytesOf "SELECT 0;"] [] "SELECT 1;" _ _ rfl hsize rfl rfl (by decide) (by decide) hdirect
  refine ⟨hcheck _ (.list []) rfl, hdirect, hthrough.1, ?_⟩
  rw [hthrough.2 _ (Request.posting_posts _)]
  rfl

end QueryConsole
