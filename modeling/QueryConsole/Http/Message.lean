import QueryConsole.Http.Target
import QueryConsole.Text.Utf8

/-!
# Requests and answers

## Main definitions

- `Http.Method`, `Http.Request`, `Http.Answer`: what is exchanged with a server
- `Http.Request.header`, `Http.Request.values`: what a request says under a name
-/

namespace QueryConsole

namespace Http

/-- The method of a request. -/
inductive Method
  | get
  | head
  | post
  | options
  | other (name : String)
  deriving DecidableEq, Repr

/-- The method of a name; capitals matter. -/
def Method.ofName (name : String) : Method :=
  if name = "GET" then .get
  else if name = "HEAD" then .head
  else if name = "POST" then .post
  else if name = "OPTIONS" then .options
  else .other name

/-- A request to a server. -/
structure Request where
  method : Method
  target : Target
  headers : List (String × String) := []
  body : List UInt8 := []
  deriving DecidableEq, Repr

/-- What a request says under a name, which is given in small letters. -/
def Request.header (r : Request) (name : String) : Option String :=
  (r.headers.find? fun h => Text.lower h.1 == name).map Prod.snd

/-- All that a request says under a name, which is given in small letters. -/
def Request.values (r : Request) (name : String) : List String :=
  (r.headers.filter fun h => Text.lower h.1 == name).map Prod.snd

/-- Whether what a header says consists of printable characters of ASCII and tabs. Other headers are
not looked at. -/
def isPlain (value : String) : Bool :=
  value.toList.all fun c => c == '\t' || (' ' ≤ c && c ≤ '~')

/-- The answer of a server. -/
structure Answer where
  status : Nat
  headers : List (String × String) := []
  body : List UInt8 := []
  deriving DecidableEq, Repr

namespace Answer

/-- An answer with a content of some type. -/
def content (status : Nat) (type : String) (body : List UInt8) : Answer :=
  ⟨status, [("content-type", type)], body⟩

/-- The answer that names the methods a target has. -/
def notAllowed (methods : String) : Answer :=
  ⟨405, [("allow", methods)], []⟩

/-- The answer where there is nothing. -/
def notFound : Answer := ⟨404, [], []⟩

/-- The answer when the server itself has failed. -/
def failed : Answer := ⟨500, [], []⟩

/-- The answer as it is given to a request for the head alone. -/
def withoutBody (a : Answer) : Answer := { a with body := [] }

/-- An answer with further headers. -/
def adding (a : Answer) (headers : List (String × String)) : Answer :=
  { a with headers := a.headers ++ headers }

end Answer

end Http

end QueryConsole
