import QueryConsole.Http.Message
import QueryConsole.Text.Digits

/-!
# Packed answers

A request may name the codings that its answer may have, and say with a weight how much each of them
is wanted. If packing is wanted no less than leaving the answer as it is, the body of an answer that
is worth it is packed. How it is packed is left open.

## Main definitions

- `Http.Coding`: the codings that are known
- `Http.Request.codings`: the codings that a request names, with their weights
- `Http.Request.wantsGzip`: whether a request wants its answer packed
- `Http.Answer.isPackable`: whether an answer is worth it
- `Http.Answer.coded`: the answer as the request wants it
-/

namespace QueryConsole

namespace Http

/-- How the body of an answer is coded. -/
inductive Coding
  /-- as it is -/
  | identity
  /-- packed -/
  | gzip
  deriving DecidableEq, Repr

namespace Coding

/-- The coding of a name, in letters of any size. -/
def ofName (name : String) : Option Coding :=
  match Text.lower name with
  | "gzip" => some .gzip
  | "x-gzip" => some .gzip
  | "identity" => some .identity
  | _ => none

/-- The weight of a coding that is named without one; weights count in thousandths. -/
def fullWeight : Nat := 1000

/-- A weight is written with at most three decimals. -/
def weightOf (whole : Nat) (decimals : List Char) : Option Nat := do
  let padded := decimals ++ List.replicate (3 - decimals.length) '0'
  let (thousandths, rest) ← Text.fixed whole 3 padded
  if rest.isEmpty ∧ thousandths ≤ fullWeight then some thousandths else none

/-- A weight, from nothing to one. -/
def weight : List Char → Option Nat
  | q :: '=' :: whole :: rest => do
    if q.toLower ≠ 'q' then failure
    let whole ← match whole with
      | '0' => some 0
      | '1' => some 1
      | _ => none
    match rest with
    | [] => weightOf whole []
    | '.' :: decimals => weightOf whole decimals
    | _ => failure
  | _ => none

/-- A coding with its weight, if both can be read. -/
def offer (piece : List Char) : Option (Coding × Nat) := do
  let (name, rest) := piece.span (· != ';')
  let coding ← ofName (String.ofList (Text.trimChars name))
  match rest with
  | _ :: w => return (coding, ← weight (Text.trimChars w))
  | [] => return (coding, fullWeight)

end Coding

/-- The codings that a request names, with their weights. Whatever cannot be read is left aside. -/
def Request.codings (r : Request) : List (Coding × Nat) :=
  ((r.values "accept-encoding").filter isPlain).flatMap fun value =>
    (value.toList.splitOn ',').filterMap Coding.offer

/-- How much a request wants a coding. -/
def Request.weight (r : Request) (coding : Coding) : Nat :=
  ((r.codings.filter (·.1 = coding)).map Prod.snd).foldl max 0

/-- Whether a request wants its answer packed: no less than it wants the answer as it is. -/
def Request.wantsGzip (r : Request) : Bool :=
  0 < r.weight .gzip ∧ r.weight .identity ≤ r.weight .gzip

namespace Answer

/-- Shorter bodies are not packed. -/
def leastPacked : Nat := 32

/-- Whether a content of some type is worth packing: pictures and streams are not. -/
def isPackableType (type : String) : Bool :=
  !type.startsWith "application/grpc" && !type.startsWith "text/event-stream" &&
    (!type.startsWith "image/" || type == "image/svg+xml")

/-- Whether an answer is worth packing. What is packed already is not, and neither is a part of a
file. -/
def isPackable (a : Answer) : Bool :=
  (a.headers.lookup "content-encoding").isNone && (a.headers.lookup "content-range").isNone &&
    leastPacked ≤ a.body.length && isPackableType ((a.headers.lookup "content-type").getD "")

/-- The answer as a request wants it, with what packs a body. -/
def coded (gzip : List UInt8 → List UInt8) (r : Request) (a : Answer) : Answer :=
  if r.wantsGzip ∧ a.isPackable then
    { a with headers := a.headers ++ [("content-encoding", "gzip")], body := gzip a.body }
  else a

end Answer

end Http

end QueryConsole
