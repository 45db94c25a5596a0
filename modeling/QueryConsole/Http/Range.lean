import QueryConsole.Text.Blank
import QueryConsole.Text.Digits
import QueryConsole.Text.Lines

/-!
# Ranges of bytes

A request may ask for a part of a file by the places of its bytes. One range is served; for several
at once there is no answer, and what cannot be read or does not lie in the file is refused.

## Main definitions

- `Http.ByteRange`: a range as it is asked for
- `Http.ByteRange.list`: the ranges that a header asks for
- `Http.Portion`, `Http.portion`: what of a file is asked for
-/

namespace QueryConsole

namespace Http

/-- A range of bytes as it is asked for. -/
inductive ByteRange
  /-- from a place on, up to another one or to the end -/
  | starting (first : Nat) (last : Option Nat)
  /-- so many bytes at the end -/
  | ending (count : Nat)
  deriving DecidableEq, Repr

namespace ByteRange

/-- The largest number of 64 bits. -/
def greatestPlace : Nat := Nat.pow 2 64 - 1

/-- A place or a count: no zero stands in front of it. -/
def place (cs : List Char) : Option Nat :=
  match cs with
  | '0' :: _ :: _ => none
  | _ => (Text.numeral 10 cs).filter (· ≤ greatestPlace)

/-- A range, written as two numbers of which one may be missing. -/
def parse (cs : List Char) : Option ByteRange :=
  match cs.span (· != '-') with
  | ([], '-' :: count) => ((place count).filter (· != 0)).map .ending
  | (first, ['-']) => (place first).map (.starting · none)
  | (first, '-' :: last) => do return .starting (← place first) (some (← place last))
  | _ => none

/-- A text without the one blank that may stand in front of it. No other blank may be in it. -/
def strip (cs : List Char) : Option (List Char) :=
  let cs := match cs with
    | c :: rest => if Text.isBlank c then rest else cs
    | [] => cs
  if cs.any Text.isBlank then none else some cs

/-- The ranges that a header asks for, unless it cannot be read. A blank may stand behind a
comma. -/
def list (header : String) : Option (List ByteRange) := do
  let rest ← Text.expectText "bytes=" header.toList
  if rest.head?.any Text.isBlank then none
  else (Text.piecesBetween "," rest).mapM fun piece => (strip piece).bind parse

/-- The first and the last place of a range in a file of some size, if the range lies in it. Ranges
end with the file. An empty file counts as its first place. -/
def within (size : Nat) : ByteRange → Option (Nat × Nat)
  | starting first last =>
    let last := min (last.getD (size - 1)) (size - 1)
    if first ≤ last then some (first, last) else none
  | ending count => if size < count then none else some (size - count, size - 1)

end ByteRange

/-- Whether no two of some stretches have a place in common. -/
def areApart : List (Nat × Nat) → Bool
  | [] => true
  | (first, last) :: rest =>
    rest.all (fun (first', last') => last < first' || last' < first) && areApart rest

/-- What of a file is asked for. -/
inductive Portion
  | whole
  /-- the bytes from one place to another one -/
  | stretch (first last : Nat)
  /-- several stretches -/
  | several
  /-- nothing that the file has -/
  | nothing
  deriving DecidableEq, Repr

/-- What of a file of some size is asked for by a header, if there is one. -/
def portion (size : Nat) (header : Option String) : Portion :=
  match header with
  | none => .whole
  | some header =>
    match (ByteRange.list header).bind (List.mapM (ByteRange.within size)) with
    | some [(first, last)] => .stretch first last
    | some stretches => if areApart stretches then .several else .nothing
    | none => .nothing

/-- The bytes from one place to another one. -/
def slice (first last : Nat) (content : List UInt8) : List UInt8 :=
  (content.drop first).take (last + 1 - first)

end Http

end QueryConsole
