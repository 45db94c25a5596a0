import QueryConsole.Config.Load
import QueryConsole.Terminal.Command
import QueryConsole.Terminal.View
import QueryConsole.Text.Lines

/-!
# The terminal program

The program lists the databases and then carries out one line of input after another, each to its
end, until a line says to quit or the input is over. What goes wrong with a line is shown, and the
next line is carried out all the same. Only a reply that the renderer cannot format ends the program:
then it breaks, and what it says about that is left out.

## Main definitions

- `Relay`: what comes of each query
- `Terminal`: a session at a terminal, with what it sent and wrote
- `Terminal.perform`: a command
- `Terminal.Close`: how the input comes to its end
- `Terminal.run`: the lines of the input
- `Terminal.program`: the whole program
-/

namespace QueryConsole

/-- What comes of a query that is sent after some others. -/
abbrev Relay := List String → String → Outcome

/-- A session at a terminal, the queries it sent, what it wrote, and whether the last call broke
it. -/
structure Terminal where
  session : Session
  sent : List String := []
  written : List Written := []
  broken : Bool := false

namespace Terminal

/-- Write something. -/
def write (t : Terminal) (written : List Written) : Terminal :=
  { t with written := t.written ++ written }

/-- See a call through to its end. -/
def follow (relay : Relay) : Nat → Terminal → Session.Turn → Terminal
  | fuel, t, turn =>
    let t := { t with session := turn.session, broken := turn.progress.isBroken }.write
      (turn.shown.map Update.written)
    match fuel, turn.progress with
    | fuel + 1, .waiting stage =>
      follow relay fuel { t with sent := t.sent ++ [stage.query] }
        (t.session.resume stage (relay t.sent stage.query))
    | _, _ => t

/-- Carry out an action. No action sends more than two queries. -/
def act (t : Terminal) (relay : Relay) (action : Session.Action) : Terminal :=
  follow relay 2 t (t.session.begin 0 action)

/-- Carry out a command. -/
def perform (t : Terminal) (relay : Relay) : Command → Terminal
  | .create name => t.act relay (.create name)
  | .use name => t.act relay (.use name)
  | .watch table => t.act relay (.select table)
  | .unwatch => t.act relay (.tab .query)
  | .graph => t.act relay .refresh
  | .tab name =>
    match Tab.parse name with
    | .ok tab => t.act relay (.tab tab)
    | .error e => t.write [(.stderr, textLine e.message)]
  | .quit => t
  | .query text => t.act relay (.query text)

/-- How the input comes to its end. -/
inductive Close
  /-- it is over, or a line says to quit -/
  | quit
  /-- a line is no text -/
  | garbled (fault : Utf8.Fault)
  /-- a line has broken the program -/
  | broken
  deriving DecidableEq, Repr

/-- Carry out lines until one says to quit, is no text, or breaks the program. The end of a line is
taken off before it is read as text. -/
def run (relay : Relay) : Terminal → List (List UInt8) → Close × Terminal
  | t, [] => (.quit, t)
  | t, line :: rest =>
    match Utf8.decode (Text.chomp line) with
    | .error fault => (.garbled fault, t)
    | .ok cs =>
      match Command.parse (String.ofList cs) with
      | none => run relay t rest
      | some .quit => (.quit, t)
      | some command =>
        let t := t.perform relay command
        if t.broken then (.broken, t) else run relay t rest

/-- What a program leaves behind. -/
structure Result where
  code : Nat
  written : List Written
  queries : List String

/-- What was written to a stream. -/
def Result.to (r : Result) (stream : Stream) : String :=
  String.join ((r.written.filter (·.1 = stream)).map Prod.snd)

/-- What a program says that ends with an error. -/
def failed (message : String) : Written := (.stderr, textLine s!"Error: {message}")

/-- The code of a program that has broken. -/
def brokenCode : Nat := 101

/-- The whole program, on its input. -/
def program (settings : Except Config.Fault Config) (relay : Relay) (input : List UInt8) : Result :=
  match settings with
  | .error fault => ⟨1, [failed fault.report], []⟩
  | .ok config =>
    let session := Session.withPeriod { renderer := .text } config.console.liveInterval
    let t := Terminal.act ⟨session, [], [], false⟩ relay .refresh
    match run relay t (Text.cutLines input) with
    | (.quit, t) => ⟨0, t.written, t.sent⟩
    | (.garbled fault, t) => ⟨1, t.written ++ [failed fault.message], t.sent⟩
    | (.broken, t) => ⟨brokenCode, t.written, t.sent⟩

end Terminal

end QueryConsole
