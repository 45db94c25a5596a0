import QueryConsole.Proofs.Http.Fault
import QueryConsole.Proofs.Http.Relay

/-!
# What the web server forwards

The daemon receives the queries that are posted to the web server, each once and as it is, and
nothing else. What it does with a query decides the answer to that request, and has no part in the
answers to later ones: these depend on the queries that were received, not on what became of them.
The status of the daemon and the text of its answer are handed on; but a request that wants its
answer packed gets a text that is not short packed, and then the bytes are not those of the daemon.

## Main definitions

- `Http.Request.Carries`: a request carries a query to the daemon
- `Http.carried`: the queries that requests carry
- `Http.Router.Packs`: a body, packed where that is wanted and worth it
- `Http.Router.Relays`: the answer to a request that carries a query, by what the daemon did
- `Http.Router.Forwards`: what the web server does with requests one after another

## Main results

- `Http.Router.handleAll_fst`: the daemon receives what the requests carry
- `Http.Router.relays`: the answer to a request that carries a query
- `Http.Router.handleAll_congr`: daemons that agree from some history on lead to the same answers
- `queries_forwarded_once`: all of this of every sequence of requests
- `answer_packed`: a query whose answer does not have the daemon's bytes
-/

namespace QueryConsole

namespace Http

/-- A request carries a query to the daemon: it is posted to the target of queries, and its body is
not too large. -/
def Request.Carries (r : Request) : Prop :=
  r.method = .post ∧ r.target.path = "/query".toList ∧ r.body.length ≤ 2097152

instance (r : Request) : Decidable r.Carries :=
  inferInstanceAs (Decidable (_ ∧ _ ∧ _))

/-- The queries that requests carry to the daemon, in order. -/
def carried (requests : List Request) : List (List UInt8) :=
  (requests.filter (·.Carries)).map Request.body

namespace Router

variable {router : Router} {state : Supervisor.State} {history : History} {r : Request}

/-- The body of an answer: as it is, unless the request wants it packed and it is not short. -/
structure Packs (router : Router) (r : Request) (body : List UInt8) (answer : Answer) : Prop where
  unpacked : r.wantsGzip = false ∨ body.length < 32 →
    answer.body = body ∧ answer.headers.lookup "content-encoding" = none
  packed : r.wantsGzip = true → 32 ≤ body.length →
    answer.body = router.gzip body ∧ answer.headers.lookup "content-encoding" = some "gzip"

/-- The answer to a request that carries a query, by what the daemon did with the query after those
it had received before. -/
structure Relays (router : Router) (received : History) (r : Request) (answer : Answer) : Prop where
  /-- the daemon answered in time, and with JSON: its answer is handed on -/
  passed : ∀ a, (router.wire.endpoint received r.body).within router.timeout = .answered a →
    Json.check a.body = .ok () → answer.status = a.status ∧
      answer.headers.lookup "content-type" = some "application/json" ∧
      router.Packs r a.body answer
  /-- anything else becomes an error -/
  failed : (∀ a, (router.wire.endpoint received r.body).within router.timeout = .answered a →
    Json.check a.body ≠ .ok ()) → answer.status = 500 ∧
      answer.headers.lookup "content-type" = some "application/json" ∧
      ∃ body message, Json.decode body =
        .ok (.object [("status", .text "error"), ("message", .text message)]) ∧
        router.Packs r body answer

/-- What the web server does with requests that come one after another. -/
structure Forwards (router : Router) (state : Supervisor.State) (history : History)
    (requests : List Request) : Prop where
  /-- the daemon receives each query that is carried to it once, as it is and in order, and nothing
  else -/
  received : (router.handleAll state history requests).1 = history ++ carried requests
  /-- each request has one answer -/
  count : (router.handleAll state history requests).2.length = requests.length
  /-- the answer to a request that carries a query -/
  relayed : ∀ before r after, requests = before ++ r :: after → r.Carries → ∃ answer,
    (router.handleAll state history requests).2[before.length]? = some answer ∧
      router.Relays (history ++ carried before) r answer
  /-- the answer to a query that is too large -/
  tooLarge : ∀ before r after, requests = before ++ r :: after → r.method = .post →
    r.target.path = "/query".toList → 2097152 < r.body.length → ∃ answer,
    (router.handleAll state history requests).2[before.length]? = some answer ∧ answer.status = 413
  /-- whatever became of the queries before, the later answers are the same -/
  independent : ∀ before after wire, requests = before ++ after → wire.up = true →
    (∀ later query, router.wire.endpoint (history ++ carried before ++ later) query =
      wire.endpoint (history ++ carried before ++ later) query) →
    (router.handleAll state history requests).2.drop before.length =
      ({ router with wire := wire }.handleAll state history requests).2.drop before.length

/-! ## One request -/

theorem carries_iff : r.Carries ↔ r.method ≠ .options ∧ isForwarded r = true := by
  have hroute : r.route = .query ↔ r.target.path = "/query".toList := by
    unfold Request.route
    split_ifs <;> simp_all
  unfold isForwarded Request.Carries
  rw [decide_eq_true_iff, hroute]
  constructor
  · rintro ⟨hmethod, hpath, hsize⟩
    exact ⟨by simp [hmethod], hpath, hmethod, hsize⟩
  · rintro ⟨-, hpath, hmethod, hsize⟩
    exact ⟨hmethod, hpath, hsize⟩

theorem handle_of_carries (h : r.Carries) : router.handle state history r =
    ((router.wire.post history r.body).1,
      ((Relay.answerOf router.timeout
        ((router.wire.post history r.body).2.within router.timeout)).adding readable).coded
          router.gzip r) := by
  have hmethod : r.method ≠ .head := by
    rw [h.1]
    decide
  rw [handle_of_not_head hmethod, plain_of_forwarded h.1 h.2.1 h.2.2]

/-- A request that carries no query has an answer that does not depend on the daemon. -/
theorem plain_of_not_carries (h : ¬r.Carries) : router.plain state history r =
    (history, if r.method = .options then permissions r.route
      else (router.unforwarded state r).adding readable) := by
  unfold plain
  split_ifs with hmethod hforwarded
  · rfl
  · exact absurd (carries_iff.2 ⟨hmethod, hforwarded⟩) h
  · rfl

theorem carried_cons (r : Request) (rest : List Request) :
    carried (r :: rest) = (if r.Carries then [r.body] else []) ++ carried rest := by
  unfold carried
  by_cases h : r.Carries <;> simp [h]

theorem handle_fst (hup : router.wire.up = true) : (router.handle state history r).1 =
    history ++ if r.Carries then [r.body] else [] := by
  by_cases h : r.Carries
  · rw [handle_of_carries h, Wire.post, if_pos hup, if_pos h]
  · rw [if_neg h, List.append_nil]
    simp only [handle, plain_of_not_carries h]

theorem isPackable_json (status : Nat) (body : List UInt8) :
    ((Answer.content status Relay.jsonType body).adding readable).isPackable =
      decide (32 ≤ body.length) := by
  have htype : Answer.isPackableType Relay.jsonType = true := by decide +kernel
  have hsize : ((Answer.content status Relay.jsonType body).adding readable).isPackable =
      (decide (32 ≤ body.length) && Answer.isPackableType Relay.jsonType) := rfl
  rw [hsize, htype, Bool.and_true]

/-- Packing leaves the status and the type of JSON as they are. -/
theorem packs_json (router : Router) (r : Request) (status : Nat) (body : List UInt8) :
    let answer := ((Answer.content status Relay.jsonType body).adding readable).coded router.gzip r
    answer.status = status ∧ answer.headers.lookup "content-type" = some "application/json" ∧
      router.Packs r body answer := by
  simp only [Answer.coded, isPackable_json, decide_eq_true_iff]
  by_cases h : r.wantsGzip = true ∧ 32 ≤ body.length
  · rw [if_pos h]
    refine ⟨rfl, rfl, fun hnot => ?_, fun _ _ => ⟨rfl, rfl⟩⟩
    obtain hwants | hshort := hnot
    · rw [h.1] at hwants
      cases hwants
    · exact absurd h.2 (Nat.not_le_of_lt hshort)
  · rw [if_neg h]
    exact ⟨rfl, rfl, fun _ => ⟨rfl, rfl⟩, fun hwants hlong => absurd ⟨hwants, hlong⟩ h⟩

/-- An answer of the daemon is handed on, and anything else becomes an error. -/
theorem relays (hup : router.wire.up = true) (h : r.Carries) :
    router.Relays history r (router.handle state history r).2 := by
  have hpost : (router.wire.post history r.body).2 = router.wire.endpoint history r.body := by
    rw [Wire.post, if_pos hup]
  rw [handle_of_carries h, hpost]
  constructor
  · intro a ha hcheck
    rw [ha, Relay.answerOf_of_check hcheck]
    exact packs_json router r a.status a.body
  · intro hunchecked
    obtain ⟨fault, hfault⟩ | ⟨a, ha, hcheck⟩ := Relay.check_cases router.timeout
      ((router.wire.endpoint history r.body).within router.timeout)
    · rw [Relay.answerOf_of_fault hfault]
      obtain ⟨hstatus, htype, hpacks⟩ := packs_json router r 500 fault.answer.body
      exact ⟨hstatus, htype, _, fault.message, Relay.decode_answer fault readable, hpacks⟩
    · -- only a body that passes the check is handed on
      exact absurd hcheck (hunchecked a ha)

theorem status_coded (gzip : List UInt8 → List UInt8) (r : Request) (a : Answer) :
    (a.coded gzip r).status = a.status := by
  unfold Answer.coded
  split <;> rfl

theorem handle_tooLarge (hmethod : r.method = .post) (hpath : r.target.path = "/query".toList)
    (hsize : 2097152 < r.body.length) : (router.handle state history r).2.status = 413 := by
  have hcarries : ¬r.Carries := fun h => absurd h.2.2 (by omega)
  have hroute : r.route = .query := if_pos hpath
  have hhead : r.method ≠ .head := by
    rw [hmethod]
    decide
  rw [handle_of_not_head hhead, plain_of_not_carries hcarries, hmethod, if_neg (by decide),
    unforwarded, hroute, hmethod, status_coded]
  rfl

/-- Daemons that do the same with a query lead to the same answer. -/
theorem handle_congr {wire : Wire} (hup : router.wire.up = true) (hup' : wire.up = true)
    (h : router.wire.endpoint history r.body = wire.endpoint history r.body) :
    router.handle state history r = { router with wire := wire }.handle state history r := by
  by_cases hcarries : r.Carries
  · rw [handle_of_carries hcarries, handle_of_carries hcarries]
    simp only [Wire.post, if_pos hup, if_pos hup', h]
  · simp only [handle, plain_of_not_carries hcarries]
    rfl

/-! ## Requests one after another -/

theorem handleAll_fst (hup : router.wire.up = true) (requests : List Request) :
    (router.handleAll state history requests).1 = history ++ carried requests := by
  induction requests generalizing history with
  | nil => exact (List.append_nil history).symm
  | cons r rest ih =>
    show (router.handleAll state (router.handle state history r).1 rest).1 = _
    rw [ih, handle_fst hup, carried_cons, List.append_assoc]

/-- Later requests are answered as though the earlier ones had only left their queries. -/
theorem handleAll_snd_append (hup : router.wire.up = true) (before after : List Request) :
    (router.handleAll state history (before ++ after)).2 =
      (router.handleAll state history before).2 ++
        (router.handleAll state (history ++ carried before) after).2 := by
  induction before generalizing history with
  | nil =>
    rw [carried, List.filter_nil, List.map_nil, List.append_nil]
    rfl
  | cons r rest ih =>
    show (router.handle state history r).2 ::
      (router.handleAll state (router.handle state history r).1 (rest ++ after)).2 = _
    rw [ih, carried_cons, ← List.append_assoc, ← handle_fst hup]
    rfl

theorem handleAll_length {requests : List Request} :
    (router.handleAll state history requests).2.length = requests.length := by
  induction requests generalizing history with
  | nil => rfl
  | cons r rest ih => exact congrArg (· + 1) ih

theorem handleAll_getElem? (hup : router.wire.up = true) (before : List Request) (r : Request)
    (after : List Request) :
    (router.handleAll state history (before ++ r :: after)).2[before.length]? =
      some (router.handle state (history ++ carried before) r).2 := by
  have hlength : (router.handleAll state history before).2.length = before.length :=
    handleAll_length
  rw [handleAll_snd_append hup, ← hlength, List.getElem?_append_right (Nat.le_refl _), Nat.sub_self]
  rfl

/-- Daemons that agree from some history on lead to the same answers from there on. -/
theorem handleAll_congr {wire : Wire} (hup : router.wire.up = true) (hup' : wire.up = true)
    {requests : List Request} (h : ∀ later query, router.wire.endpoint (history ++ later) query =
      wire.endpoint (history ++ later) query) : router.handleAll state history requests =
        { router with wire := wire }.handleAll state history requests := by
  induction requests generalizing history with
  | nil => rfl
  | cons r rest ih =>
    -- the daemons agree on this query, and on all that can come after it
    have hnow : router.wire.endpoint history r.body = wire.endpoint history r.body := by
      simpa using h [] r.body
    have hlater : ∀ later query,
        router.wire.endpoint ((router.handle state history r).1 ++ later) query =
          wire.endpoint ((router.handle state history r).1 ++ later) query := by
      intro later query
      rw [handle_fst hup, List.append_assoc]
      exact h _ query
    simp only [handleAll, ← handle_congr hup hup' hnow, ih hlater]

end Router

end Http

open Http in
/-- Whatever requests the web server gets, one after another, and whatever the daemon does, if it
can be reached: it receives each query that is posted and not too large, once, as it is and in
order, and nothing else. Each such request is answered by the daemon's answer, if that is JSON and
comes in time, and by an error otherwise, packed where the request wants that and the answer is not
short; a query that is too large is refused; and what became of earlier queries has no part in later
answers. -/
theorem queries_forwarded_once (router : Router) (hup : router.wire.up = true)
    (state : Supervisor.State) (history : History) (requests : List Request) :
    router.Forwards state history requests where
  received := Router.handleAll_fst hup requests
  count := Router.handleAll_length
  relayed := by
    rintro before r after rfl hcarries
    exact ⟨_, Router.handleAll_getElem? hup before r after, Router.relays hup hcarries⟩
  tooLarge := by
    rintro before r after rfl hmethod hpath hsize
    exact ⟨_, Router.handleAll_getElem? hup before r after,
      Router.handle_tooLarge hmethod hpath hsize⟩
  independent := by
    rintro before after wire rfl hup' hagree
    rw [Router.handleAll_snd_append hup, Router.handleAll_snd_append hup',
      Router.handleAll_congr hup hup' hagree]
    rw [List.drop_left' Router.handleAll_length, List.drop_left' Router.handleAll_length]

open Http in
/-- A text of JSON that is long enough to be packed: 38 times the same letter. -/
def longText : List UInt8 := 0x22 :: List.replicate 38 0x61 ++ [0x22]

open Http in
/-- A web server without files, before a daemon that breaks its first connection and answers all
later queries with a long text, which is packed in one block. -/
def falteringRouter : Router where
  site := ⟨"", .directory [], 0⟩
  wire := ⟨true, fun received _ =>
    if received.isEmpty then .broken 5 else .answer 20 ⟨201, [], longText⟩⟩
  timeout := 1000
  gzip := fun _ => [0x1F, 0x8B, 0x08, 0x00, 0x00, 0x00, 0x00, 0x00, 0x00, 0xFF, 0x53, 0x4A, 0x24,
    0x0A, 0x28, 0x01, 0x00, 0xFD, 0x29, 0x4C, 0x69, 0x28, 0x00, 0x00, 0x00]

open Http in
/-- A posted query whose answer may be packed. -/
def packedPosting (query : List UInt8) : Request :=
  { Request.posting query with headers := [("Accept-Encoding", "br, gzip;q=0.5")] }

open Http in
/-- Three posted queries, one of them empty and one that is not UTF-8, among other requests. -/
def mixedRequests : List Request :=
  [.posting [0x61], ⟨.options, Target.parse "/query", [], [0x62]⟩,
    ⟨.other "PUT", Target.parse "/query", [], [0x63]⟩, ⟨.post, Target.parse "/health", [], [0x64]⟩,
    packedPosting [], ⟨.head, Target.parse "/query", [], []⟩, .posting [0xFF]]

open Http in
/-- The daemon receives three queries. The first is answered by an error, the second by the daemon's
text in packed form, and the third by the text as it is. -/
theorem queries_forwarded_faltering :
    (falteringRouter.handleAll .running [] mixedRequests).1 = [[0x61], [], [0xFF]] ∧
    (∃ answer, (falteringRouter.handleAll .running [] mixedRequests).2[0]? = some answer ∧
      answer.status = 500) ∧
    (∃ answer, (falteringRouter.handleAll .running [] mixedRequests).2[4]? = some answer ∧
      answer.status = 201 ∧ answer.body.length = 25) ∧
    ∃ answer, (falteringRouter.handleAll .running [] mixedRequests).2[6]? = some answer ∧
      answer.status = 201 ∧ answer.body = longText := by
  have hforwards := queries_forwarded_once falteringRouter rfl .running [] mixedRequests
  have hcarried : carried mixedRequests = [[0x61], [], [0xFF]] := by decide +kernel
  have hfirst : carried (mixedRequests.take 4) = [[0x61]] := by decide +kernel
  have hbefore : carried (mixedRequests.take 6) = [[0x61], []] := by decide +kernel
  have hcheck : Json.check longText = .ok () := by decide +kernel
  refine ⟨hforwards.received.trans hcarried, ?_, ?_, ?_⟩
  · obtain ⟨answer, hanswer, hrelays⟩ :=
      hforwards.relayed [] (.posting [0x61]) (mixedRequests.drop 1) rfl (by decide +kernel)
    have hbroken (a : Answer) (h : Exchange.failed = .answered a) : Json.check a.body ≠ .ok () := by
      cases h
    exact ⟨answer, hanswer, (hrelays.failed hbroken).1⟩
  · obtain ⟨answer, hanswer, hrelays⟩ := hforwards.relayed (mixedRequests.take 4)
      (packedPosting []) (mixedRequests.drop 5) rfl (by decide +kernel)
    rw [hfirst] at hrelays
    obtain ⟨hstatus, -, hpacks⟩ := hrelays.passed ⟨201, [], longText⟩ rfl hcheck
    have hpacked := hpacks.packed (by decide +kernel) (by decide)
    refine ⟨answer, hanswer, hstatus, ?_⟩
    rw [hpacked.1]
    rfl
  · obtain ⟨answer, hanswer, hrelays⟩ :=
      hforwards.relayed (mixedRequests.take 6) (.posting [0xFF]) [] rfl (by decide +kernel)
    rw [hbefore] at hrelays
    obtain ⟨hstatus, -, hpacks⟩ := hrelays.passed ⟨201, [], longText⟩ rfl hcheck
    exact ⟨answer, hanswer, hstatus, (hpacks.unpacked (.inl (by decide +kernel))).1⟩

open Http in
/-- A query that is posted with the wish for a packed answer, to a daemon that has received another
one before: the daemon answers in time and with JSON, and the body of the answer is another one than
the daemon's, with a header that says so. -/
theorem answer_packed :
    (falteringRouter.wire.endpoint [[0x61]] [0x62]).within falteringRouter.timeout =
      .answered ⟨201, [], longText⟩ ∧
    Json.check longText = .ok () ∧
    (falteringRouter.handle .running [[0x61]] (packedPosting [0x62])).2.body ≠ longText ∧
    ("content-encoding", "gzip") ∈
      (falteringRouter.handle .running [[0x61]] (packedPosting [0x62])).2.headers := by
  decide +kernel

end QueryConsole
