import QueryConsole.Double.Basic

/-!
# JSON values

A value keeps the order of an object's members. An object holds each key once: putting a key again
keeps its first place and takes the last value.

## Main definitions

- `Json`: a value
- `Json.put`, `Json.lookup`: members by key
- `Json.member?`, `Json.text?`: views of a value
-/

namespace QueryConsole

/-- A JSON value. Whole numbers of 64 bits stay whole; all others are doubles. -/
inductive Json
  | null
  | bool (b : Bool)
  | integer (n : Int)
  | double (x : Double)
  | text (s : String)
  | list (items : List Json)
  | object (members : List (String × Json))
  deriving Repr, Inhabited

namespace Json

/-- Members with the value of one key set. A new key comes last. -/
def put (members : List (String × Json)) (key : String) (value : Json) : List (String × Json) :=
  match members with
  | [] => [(key, value)]
  | (k, v) :: rest => if k = key then (k, value) :: rest else (k, v) :: put rest key value

/-- The members left when each of a sequence is put in turn. -/
def putAll (entries : List (String × Json)) : List (String × Json) :=
  entries.foldl (fun members entry => put members entry.1 entry.2) []

/-- The value of a key. -/
def lookup (members : List (String × Json)) (key : String) : Option Json :=
  match members with
  | [] => none
  | (k, v) :: rest => if k = key then some v else lookup rest key

/-- The value of a key of an object; other values have no members. -/
def member? (v : Json) (key : String) : Option Json :=
  match v with
  | .object members => lookup members key
  | _ => none

/-- The text, if the value is one. -/
def text? : Json → Option String
  | .text s => some s
  | _ => none

end Json

end QueryConsole
