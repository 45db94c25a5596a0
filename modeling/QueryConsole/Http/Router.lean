import QueryConsole.Http.Coding
import QueryConsole.Http.Relay
import QueryConsole.Http.Site
import QueryConsole.Supervisor.Basic

/-!
# The web server's answers

Two targets are known: queries are posted to one, and the other tells how the daemon is. Everything
else is a static file. Pages from anywhere may use the server, and every answer is packed that is
worth it and wanted packed.

## Main definitions

- `Http.Router`: the static files, the way to the daemon, and how bodies are packed
- `Http.Route`, `Http.Request.route`: what a request is for
- `Http.Router.plain`: the answer to a request before it is packed
- `Http.Router.handle`: the answer to a request
-/

namespace QueryConsole

namespace Http

/-- What the web server needs for its answers. -/
structure Router where
  /-- the static files -/
  site : Site
  /-- the way to the daemon -/
  wire : Wire
  /-- how many milliseconds an answer of the daemon may take -/
  timeout : Nat
  /-- how bodies are packed -/
  gzip : List UInt8 → List UInt8

/-- What a path is for. -/
inductive Route
  /-- queries -/
  | query
  /-- the health of the server -/
  | health
  /-- static files -/
  | site
  deriving DecidableEq, Repr

/-- What a request is for. -/
def Request.route (r : Request) : Route :=
  if r.target.path = "/query".toList then .query
  else if r.target.path = "/health".toList then .health
  else .site

/-- The methods of a target; those of static files are not told to everyone. -/
def Route.methods : Route → Option String
  | .query => some "POST"
  | .health => some "GET,HEAD"
  | .site => none

namespace Router

/-- The largest query, in bytes. -/
def largestQuery : Nat := 2097152

/-- The answer to a query that is too large. -/
def tooLarge : Answer :=
  .content 413 "text/plain; charset=utf-8"
    (Utf8.bytesOf "Failed to buffer the request body: length limit exceeded")

/-- How the server and its daemon are. -/
def health (state : Supervisor.State) : Answer :=
  .content 200 Relay.jsonType (Utf8.bytesOf
    (Json.object [("status", .text "ok"), ("daemon", .text state.name)]).render)

/-- The headers that let every page read an answer. -/
def readable : List (String × String) :=
  [("access-control-allow-origin", "*"), ("access-control-expose-headers", "*")]

/-- The answer to a question for what a target allows. -/
def permissions (route : Route) : Answer :=
  ⟨200, [("access-control-allow-origin", "*"), ("access-control-allow-methods", "*"),
    ("access-control-allow-headers", "*")] ++ (route.methods.map (Prod.mk "allow")).toList, []⟩

/-- Whether a request carries a query to the daemon. -/
def isForwarded (r : Request) : Bool :=
  r.route = .query ∧ r.method = .post ∧ r.body.length ≤ largestQuery

/-- The answer to a request that does not concern the daemon. -/
def unforwarded (router : Router) (state : Supervisor.State) (r : Request) : Answer :=
  match r.route, r.method with
  | .query, .post => tooLarge
  | .query, _ => .notAllowed "POST"
  | .health, .get => health state
  | .health, .head => health state
  | .health, _ => .notAllowed "GET,HEAD"
  | .site, _ => router.site.serve r

/-- The answer to a request before it is packed, in some state of the daemon and after some
queries. -/
def plain (router : Router) (state : Supervisor.State) (history : History) (r : Request) :
    History × Answer :=
  if r.method = .options then (history, permissions r.route)
  else if isForwarded r then
    let (history, answer) := Relay.respond router.wire router.timeout history r.body
    (history, answer.adding readable)
  else (history, (router.unforwarded state r).adding readable)

/-- The answer to a request, in some state of the daemon and after some queries. A request for the
head alone is answered by the head of the packed answer. -/
def handle (router : Router) (state : Supervisor.State) (history : History) (r : Request) :
    History × Answer :=
  let (history, answer) := router.plain state history r
  let answer := answer.coded router.gzip r
  (history, if r.method = .head then answer.withoutBody else answer)

/-- The answers to requests one after another. -/
def handleAll (router : Router) (state : Supervisor.State) (history : History) :
    List Request → History × List Answer
  | [] => (history, [])
  | r :: rest =>
    let (history, answer) := router.handle state history r
    let (history, answers) := router.handleAll state history rest
    (history, answer :: answers)

end Router

end Http

end QueryConsole
