/-!
# Lines

## Main definitions

- `Text.piecesBetween`: the texts between separators
- `Text.cutLines`: the lines of a byte string
- `Text.chomp`: a line without its end
- `Text.report`: a message with the causes behind it
-/

namespace QueryConsole

namespace Text

/-- The texts between separators. -/
def piecesBetween (separator : String) (cs : List Char) : List (List Char) :=
  ((String.ofList cs).splitOn separator).map String.toList

/-- The bytes cut behind each line feed; what follows the last one is a line if it is not empty. -/
def cutLines : List UInt8 → List (List UInt8)
  | [] => []
  | b :: rest =>
    if b = 0x0A then [b] :: cutLines rest
    else match cutLines rest with
      | [] => [[b]]
      | line :: lines => (b :: line) :: lines

/-- The bytes of a line without its line feed, and without the carriage return before that. -/
def chomp (line : List UInt8) : List UInt8 :=
  match line.reverse with
  | 0x0A :: 0x0D :: rest => rest.reverse
  | 0x0A :: rest => rest.reverse
  | _ => line

/-- Text whose further lines are indented. -/
def indent (first further : String) (text : String) : String :=
  first ++ ("\n" ++ further).intercalate (text.splitOn "\n")

/-- The causes behind a message, numbered if there is more than one. -/
def causeLines : List String → List String
  | [cause] => [indent "    " "    " cause]
  | causes => causes.zipIdx.map fun (cause, n) => indent s!"    {n}: " "       " cause

/-- A message with the causes behind it. -/
def report (message : String) (causes : List String) : String :=
  if causes.isEmpty then message
  else "\n".intercalate (s!"{message}\n\nCaused by:" :: causeLines causes)

end Text

end QueryConsole
