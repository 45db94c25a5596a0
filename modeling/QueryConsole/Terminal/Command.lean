import QueryConsole.Text.Blank

/-!
# Command lines

A line is a command if its first word is one of the command words, and a query otherwise. White
space around a line, and between a command word and its argument, does not matter.

## Main definitions

- `Command`: what a line asks for
- `Command.parse`: the command of a line
- `Command.words`: the command words
-/

namespace QueryConsole

/-- What a line of input asks for. -/
inductive Command
  | create (name : String)
  | use (name : String)
  | watch (table : String)
  | unwatch
  | graph
  | tab (name : String)
  | quit
  | query (text : String)
  deriving DecidableEq, Repr

namespace Command

/-- The command of a command word and its argument; some commands take none. -/
def ofWord (argument : String) : String → Option Command
  | "\\create" => some (.create argument)
  | "\\use" => some (.use argument)
  | "\\watch" => some (.watch argument)
  | "\\unwatch" => some .unwatch
  | "\\graph" => some .graph
  | "\\tab" => some (.tab argument)
  | "\\q" => some .quit
  | "\\quit" => some .quit
  | _ => none

/-- The command words. -/
def words : List String :=
  ["\\create", "\\use", "\\watch", "\\unwatch", "\\graph", "\\tab", "\\q", "\\quit"]

/-- The command of a line; a blank line has none. -/
def parse (line : String) : Option Command :=
  let line := Text.trim line
  if line.isEmpty then none
  else
    let (word, rest) := Text.splitWord line
    some ((ofWord (Text.trim rest) word).getD (.query line))

end Command

end QueryConsole
