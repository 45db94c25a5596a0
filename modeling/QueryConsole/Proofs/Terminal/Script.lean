import QueryConsole.Proofs.Table.Columns
import QueryConsole.Proofs.Terminal.Calls
import QueryConsole.Proofs.Text.Lines

/-!
# Scripts for the terminal program

The input of the terminal program is a script of lines. What a line asks for is told by its first
word alone, and whatever error comes of it, the next line is carried out as it would be otherwise.
Besides a line that says to quit only one thing ends the script: a statement whose reply cannot be
formatted breaks the program.

## Main definitions

- `Command.word`, `Command.argument`: the first word of a line and the rest of it
- `Command.agenda`: the queries that a line asks for
- `Command.quits`: whether a line says to quit
- `Relay.Breaks`: a line breaks the program
- `Terminal.handle`, `Terminal.handled`: carrying out a line, and the lines that are carried out

## Main results

- `Terminal.Reached.handle`, `Terminal.Reached.handle_broken`: what is sent for a line, and when it
  breaks the program
- `Terminal.run_lines`: which lines are carried out, one by one
- `terminal_survives_all_but_wide_replies`: what the program sends for its whole input
- `terminal_ended_by_wide_reply`: a reply that ends it
-/

namespace QueryConsole

open Session (Action Move)
open Session.Run (after seen)

/-! ## What a line asks for -/

namespace Command

/-- The first word of a line. -/
def word (line : String) : String :=
  (Text.splitWord (Text.trim line)).1

/-- What follows the first word of a line. -/
def argument (line : String) : String :=
  Text.trim (Text.splitWord (Text.trim line)).2

/-- Whether a line says to quit. -/
def quits (line : String) : Bool :=
  word line == "\\q" || word line == "\\quit"

/-- The queries that a line asks for, told by its first word. A line that is no command is a query
itself. -/
def agenda (line : String) : List String :=
  let name := argument line
  match word line with
  | "\\create" =>
    if Identifier.isValid name then ["CREATE DATABASE " ++ name ++ ";", "\\dc"] else []
  | "\\use" => if Identifier.isValid name then ["USE " ++ name ++ ";", "\\dt"] else []
  | "\\graph" => ["\\dc"]
  | "\\watch" => []
  | "\\unwatch" => []
  | "\\tab" => []
  | "\\q" => []
  | "\\quit" => []
  | _ => if Text.trim line = "" then [] else [Text.trim line]

/-- The action of a command. A tab that is unknown is not changed to. -/
def action? : Command → Option Action
  | .create name => some (.create name)
  | .use name => some (.use name)
  | .watch table => some (.select table)
  | .unwatch => some (.tab .query)
  | .graph => some .refresh
  | .tab name => (Tab.parse name).toOption.map .tab
  | .quit => none
  | .query text => some (.query text)

/-- The action of a line. -/
def lineAction? (line : String) : Option Action :=
  (parse line).bind action?

theorem parse_eq (line : String) :
    parse line = if Text.trim line = "" then none
      else some ((ofWord (argument line) (word line)).getD (.query (Text.trim line))) := by
  simp only [parse, word, argument, String.isEmpty_iff]

theorem trim_argument (line : String) : Text.trim (argument line) = argument line :=
  Text.trim_idem _

theorem word_of_blank {line : String} (h : Text.trim line = "") : word line = "" := by
  rw [word, h]
  rfl

/-- A line asks for the queries of its action. -/
theorem agenda_eq (line : String) : agenda line = ((lineAction? line).map Action.plan).getD [] := by
  rw [lineAction?, parse_eq]
  by_cases hblank : Text.trim line = ""
  · simp [agenda, word_of_blank hblank, hblank]
  rw [if_neg hblank, Option.bind_some]
  unfold agenda
  -- one case for each command word, and one for all others
  split
  · next hword => simp [hword, ofWord, action?, trim_argument]
  · next hword => simp [hword, ofWord, action?, trim_argument]
  · next hword => simp [hword, ofWord, action?]
  · next hword => simp [hword, ofWord, action?]
  · next hword => simp [hword, ofWord, action?]
  · next hword =>
    cases htab : Tab.parse (argument line) <;>
      simp [hword, ofWord, action?, htab, Except.toOption]
  · next hword => simp [hword, ofWord, action?]
  · next hword => simp [hword, ofWord, action?]
  · have hnone : ofWord (argument line) (word line) = none := by
      unfold ofWord
      split <;> simp_all
    simp [hnone, action?, Text.trim_idem]

theorem ofWord_quit (argument word : String) :
    ofWord argument word = some .quit ↔ word = "\\q" ∨ word = "\\quit" := by
  unfold ofWord
  split <;> simp_all

theorem quits_iff (line : String) : quits line = true ↔ parse line = some .quit := by
  have hquits : quits line = true ↔ word line = "\\q" ∨ word line = "\\quit" := by
    simp [quits]
  rw [hquits, ← ofWord_quit (argument line), parse_eq]
  by_cases hblank : Text.trim line = ""
  · simp [hblank, word_of_blank hblank, ofWord]
  · cases hcommand : ofWord (argument line) (word line) <;> simp [hblank]

/-- A statement has no white space around it and is not empty. -/
theorem trim_of_parse {line statement : String} (h : parse line = some (.query statement)) :
    Text.trim statement = statement ∧ statement ≠ "" := by
  rw [parse_eq] at h
  split at h
  · cases h
  · next hfilled =>
    cases hcommand : ofWord (argument line) (word line) with
    | none =>
      simp only [hcommand, Option.getD_none, Option.some.injEq, query.injEq] at h
      subst h
      exact ⟨Text.trim_idem line, hfilled⟩
    | some command =>
      simp only [hcommand, Option.getD_some, Option.some.injEq] at h
      subst h
      unfold ofWord at hcommand
      split at hcommand <;> cases hcommand

/-- Only a statement is carried out as a query. -/
theorem eq_query_of_action? {command : Command} {text : String}
    (h : command.action? = some (.query text)) : command = .query text := by
  cases command with
  | query given =>
    obtain rfl := Action.query.inj (Option.some.inj h)
    rfl
  | tab name => cases htab : Tab.parse name <;> simp [action?, htab, Except.toOption] at h
  | _ => cases h

/-- White space around a line makes no difference to it. -/
theorem parse_congr {a b : List Char} (h : Text.trimChars a = Text.trimChars b) :
    parse (String.ofList a) = parse (String.ofList b) := by
  simp only [parse, Text.trim, String.toList_ofList, h]

end Command

/-- A line breaks the program: it is a statement, and the renderer does not return for the reply
that the relay gets after the queries sent before. -/
def Relay.Breaks (relay : Relay) (sent : List String) (line : String) : Prop :=
  ∃ statement reply, Command.parse line = some (.query statement) ∧
    relay sent statement = .ok reply ∧ Renderer.text.render reply = none

/-! ## Carrying out lines -/

namespace Terminal

variable {relay : Relay} {period : Nat} {run : List Move} {t : Terminal}

/-- Carry out a line. -/
def handle (relay : Relay) (t : Terminal) (line : String) : Terminal :=
  match Command.parse line with
  | none => t
  | some command => t.perform relay command

/-- The lines that are carried out: all of them up to one that breaks the program. -/
def handled (relay : Relay) : Terminal → List String → List String
  | _, [] => []
  | t, line :: rest =>
    line :: if (t.handle relay line).broken then [] else handled relay (t.handle relay line) rest

/-- A command is its action, or does nothing to the session and sends nothing. -/
theorem perform_cases (t : Terminal) (relay : Relay) (command : Command) :
    (∃ action, command.action? = some action ∧ t.perform relay command = t.act relay action) ∨
      (command.action? = none ∧ (t.perform relay command).session = t.session ∧
        (t.perform relay command).sent = t.sent ∧
        (t.perform relay command).broken = t.broken) := by
  cases command with
  | tab name =>
    cases htab : Tab.parse name with
    | ok tab => exact .inl ⟨.tab tab, by simp [Command.action?, htab, Except.toOption],
        by simp [perform, htab]⟩
    | error e => exact .inr ⟨by simp [Command.action?, htab, Except.toOption],
        by simp [perform, htab, write], by simp [perform, htab, write],
        by simp [perform, htab, write]⟩
  | quit => exact .inr ⟨rfl, rfl, rfl, rfl⟩
  | _ => exact .inl ⟨_, rfl, rfl⟩

/-- What is sent for a line: its queries, until one of them fails. -/
theorem Reached.handle (h : Reached relay period run t) (line : String) :
    ∃ moves, Session.actions moves = (Command.lineAction? line).toList ∧
      Reached relay period (run ++ moves) (t.handle relay line) ∧
      (t.handle relay line).sent = relay.pursue t.sent (Command.agenda line) := by
  unfold Terminal.handle
  rw [Command.agenda_eq, Command.lineAction?]
  cases hcommand : Command.parse line with
  | none => exact ⟨[], rfl, by rwa [List.append_nil], rfl⟩
  | some command =>
    simp only [Option.bind_some]
    obtain ⟨action, haction, hperform⟩ | ⟨haction, hsession, hsent, _⟩ :=
      t.perform_cases relay command
    · obtain ⟨moves, hactions, hreached, hsent⟩ := h.act action
      rw [haction, hperform]
      exact ⟨moves, hactions, hreached, hsent⟩
    · rw [haction]
      refine ⟨[], rfl, ?_, hsent⟩
      rw [List.append_nil]
      exact ⟨h.orderly, h.session.trans hsession.symm, h.idle, h.sent.trans hsent.symm⟩

/-- A line that is carried out breaks the program exactly if the renderer does not return. -/
theorem Reached.handle_broken (h : Reached relay period run t) (hwhole : t.broken = false)
    (line : String) : (t.handle relay line).broken = true ↔ relay.Breaks t.sent line := by
  have hrenderer : t.session.renderer = .text := by
    rw [← h.session]
    exact Session.Run.after_renderer run
  unfold Terminal.handle Relay.Breaks
  cases hcommand : Command.parse line with
  | none => simp [hwhole]
  | some command =>
    obtain ⟨action, haction, hperform⟩ | ⟨haction, _, _, hbroken⟩ := t.perform_cases relay command
    · simp only [hperform, act_broken, hrenderer]
      constructor
      · rintro ⟨text, reply, rfl, _, hreply, hrender⟩
        obtain rfl := Command.eq_query_of_action? haction
        obtain ⟨htrim, _⟩ := Command.trim_of_parse hcommand
        exact ⟨text, reply, rfl, htrim ▸ hreply, hrender⟩
      · rintro ⟨statement, reply, hquery, hreply, hrender⟩
        obtain rfl := Option.some.inj hquery
        obtain rfl := Option.some.inj haction
        obtain ⟨htrim, hfilled⟩ := Command.trim_of_parse hcommand
        rw [← htrim] at hreply hfilled
        exact ⟨statement, reply, rfl, hfilled, hreply, hrender⟩
    · simp only [hbroken, hwhole]
      refine iff_of_false (by simp) ?_
      rintro ⟨statement, reply, hquery, _⟩
      obtain rfl := Option.some.inj hquery
      cases haction

/-- Several lines are carried out one after another. -/
theorem Reached.handle_all (h : Reached relay period run t) (lines : List String) :
    ∃ moves, Session.actions moves = lines.filterMap Command.lineAction? ∧
      Reached relay period (run ++ moves) (lines.foldl (Terminal.handle relay) t) ∧
      (lines.foldl (Terminal.handle relay) t).sent =
        relay.traffic t.sent (lines.map Command.agenda) := by
  induction lines generalizing run t with
  | nil => exact ⟨[], rfl, by rwa [List.append_nil], rfl⟩
  | cons line lines ih =>
    obtain ⟨first, hfirst, hreached, hsent⟩ := h.handle line
    obtain ⟨later, hlater, hall, hrest⟩ := ih hreached
    refine ⟨first ++ later, ?_, ?_, ?_⟩
    · rw [Session.actions_append, hfirst, hlater]
      cases hline : Command.lineAction? line <;> simp [hline]
    · rw [← List.append_assoc, List.foldl_cons]
      exact hall
    · rw [List.foldl_cons, hrest, hsent, List.map_cons, Relay.traffic_cons]

/-! ## The whole input -/

theorem handled_prefix (relay : Relay) (t : Terminal) (lines : List String) :
    handled relay t lines <+: lines := by
  induction lines generalizing t with
  | nil => exact List.prefix_rfl
  | cons line rest ih =>
    rw [handled]
    split
    · exact ⟨rest, rfl⟩
    · exact List.prefix_cons_inj line |>.2 (ih _)

/-- A program that has not broken has carried out all lines. -/
theorem handled_eq_self {lines : List String}
    (h : ((handled relay t lines).foldl (Terminal.handle relay) t).broken = false) :
    handled relay t lines = lines := by
  induction lines generalizing t with
  | nil => rfl
  | cons line rest ih =>
    rw [handled] at h ⊢
    split
    · next hbroken => simp [hbroken] at h
    · next hwhole =>
      rw [if_neg hwhole, List.foldl_cons] at h
      rw [ih h]

/-- Only the last line that is carried out breaks the program. -/
theorem eq_nil_of_broken {lines earlier later : List String} {line : String}
    (h : handled relay t lines = earlier ++ line :: later)
    (hbroken : ((earlier ++ [line]).foldl (Terminal.handle relay) t).broken = true) :
    later = [] := by
  induction lines generalizing t earlier with
  | nil => simp [handled] at h
  | cons first rest ih =>
    rw [handled] at h
    cases earlier with
    | nil =>
      obtain ⟨rfl, hlater⟩ := List.cons.inj h
      rw [List.nil_append, List.foldl_cons, List.foldl_nil] at hbroken
      rw [← hlater, if_pos hbroken]
    | cons first' earlier =>
      obtain ⟨rfl, hrest⟩ := List.cons.inj h
      rw [List.cons_append, List.foldl_cons] at hbroken
      split at hrest
      · simp at hrest
      · exact ih hrest hbroken

/-- A line that is carried out before another one has not broken the program. -/
theorem not_broken_of_handled {lines earlier later : List String} {line : String}
    (h : handled relay t lines = earlier ++ line :: later) (hwhole : t.broken = false) :
    (earlier.foldl (Terminal.handle relay) t).broken = false := by
  rcases List.eq_nil_or_concat earlier with rfl | ⟨before, last, rfl⟩
  · exact hwhole
  · rw [List.concat_eq_append, List.append_assoc] at h
    rw [List.concat_eq_append, Bool.eq_false_iff]
    intro hbroken
    cases eq_nil_of_broken h hbroken

/-- The lines up to the one that says to quit are carried out, one by one, unless one of them breaks
the program. -/
theorem run_lines {input : List (List UInt8)} {lines : List (List Char)}
    (h : List.Forall₂ Text.ReadAs input lines) (hwhole : t.broken = false) :
    let asked := (lines.map String.ofList).takeWhile fun line => !Command.quits line
    let last := (handled relay t asked).foldl (Terminal.handle relay) t
    Terminal.run relay t input = (if last.broken then .broken else .quit, last) := by
  intro asked last
  induction h generalizing t with
  | nil => simp [Terminal.run, last, asked, handled, hwhole]
  | @cons bytes line input lines hread _ ih =>
    obtain ⟨cs, hdecode, htrim⟩ := hread
    have hparse := Command.parse_congr htrim
    have hquits := Command.quits_iff (String.ofList line)
    rw [Terminal.run, hdecode]
    simp only [hparse, last, asked, List.map_cons]
    by_cases hquit : Command.quits (String.ofList line) = true
    · rw [hquits.1 hquit, List.takeWhile_cons_of_neg (by simp [hquit])]
      simp [handled, hwhole]
    · rw [List.takeWhile_cons_of_pos (by simp [hquit]), handled, List.foldl_cons]
      cases hcommand : Command.parse (String.ofList line) with
      | none =>
        have hsame : t.handle relay (String.ofList line) = t := by simp [handle, hcommand]
        simp only [hsame, hwhole, Bool.false_eq_true, if_false]
        exact ih hwhole
      | some command =>
        have hperform : t.handle relay (String.ofList line) = t.perform relay command := by
          simp [handle, hcommand]
        have hcommands : command ≠ .quit := by
          rintro rfl
          exact hquit (hquits.2 hcommand)
        rw [hperform]
        by_cases hbroken : (t.perform relay command).broken = true
        · rw [if_pos hbroken]
          cases command with
          | quit => exact absurd rfl hcommands
          | _ => simp [hbroken]
        · rw [if_neg hbroken, ← ih (Bool.eq_false_iff.2 hbroken)]
          cases command with
          | quit => exact absurd rfl hcommands
          | _ => simp [hbroken]

/-- A blank line does nothing. -/
theorem handle_blank (relay : Relay) (t : Terminal) : t.handle relay "" = t := by
  have hblank : Command.parse "" = none := rfl
  rw [handle, hblank]

/-- An empty line at the end makes no difference. -/
theorem foldl_handled_takeWhile (lines : List String) (t : Terminal) :
    (handled relay t ((lines ++ [""]).takeWhile fun line => !Command.quits line)).foldl
        (Terminal.handle relay) t =
      (handled relay t (lines.takeWhile fun line => !Command.quits line)).foldl
        (Terminal.handle relay) t := by
  induction lines generalizing t with
  | nil =>
    have hblank : [""].takeWhile (fun line => !Command.quits line) = [""] := rfl
    rw [List.nil_append, hblank, handled, handle_blank, List.foldl_cons, handle_blank]
    simp [handled]
  | cons line lines ih =>
    by_cases hquit : Command.quits line = true
    · rw [List.cons_append, List.takeWhile_cons_of_neg (by simp [hquit]),
        List.takeWhile_cons_of_neg (by simp [hquit])]
    · rw [List.cons_append, List.takeWhile_cons_of_pos (by simp [hquit]),
        List.takeWhile_cons_of_pos (by simp [hquit]), handled, handled, List.foldl_cons,
        List.foldl_cons]
      split
      · rfl
      · exact ih _

/-- The program before its first line: it has listed the databases. -/
def listed (config : Config) (relay : Relay) : Terminal :=
  Terminal.act ⟨(Session.Run.start .text config.console.liveInterval).session, [], [], false⟩ relay
    .refresh

/-- Before its first line the program has asked for the databases, and that has not broken it. -/
theorem reached_listed (config : Config) (relay : Relay) :
    (listed config relay).broken = false ∧ (listed config relay).sent = ["\\dc"] ∧
      ∃ run, Session.actions run = [.refresh] ∧
        Reached relay config.console.liveInterval run (listed config relay) := by
  let t : Terminal :=
    ⟨(Session.Run.start .text config.console.liveInterval).session, [], [], false⟩
  have hstart : Reached relay config.console.liveInterval [] t := ⟨.start, rfl, rfl, rfl⟩
  obtain ⟨run, hactions, hreached, hsent⟩ := hstart.act .refresh
  refine ⟨?_, ?_, run, hactions, hreached⟩
  · rw [Bool.eq_false_iff]
    intro hbroken
    obtain ⟨_, _, hquery, _⟩ := (act_broken t relay .refresh).1 hbroken
    cases hquery
  · refine hsent.trans ?_
    simp [t, Relay.pursue]

/-- The code of a program whose lines are all text tells whether it has broken. -/
theorem program_of_run {config : Config} {input : List UInt8} {last : Terminal}
    (h : Terminal.run relay (listed config relay) (Text.cutLines input) =
      (if last.broken then .broken else .quit, last)) :
    program (.ok config) relay input =
      ⟨if last.broken then brokenCode else 0, last.written, last.sent⟩ := by
  unfold program
  rw [listed, Session.Run.start] at h
  simp only [h]
  cases last.broken <;> rfl

end Terminal

/-- The terminal program ends with its input, with the first line whose first word says to quit, or
with a statement that has a reply wider than the renderer can format. It lists the databases, and
then sends for each line before that one, and for a line that breaks it too, exactly what the line
asks for, told by its first word alone: neither a line that fails nor a name or a tab that is
refused makes a difference to the lines after it. All this is a run of the session in which no call
begins while another waits, so that the queries of a line are over when the next line is handled.
Nothing is sent for a line behind one that breaks the program, and its code tells that it has
broken. -/
theorem terminal_survives_all_but_wide_replies (config : Config) (relay : Relay) (text : String) :
    let period := config.console.liveInterval
    let result := Terminal.program (.ok config) relay (Utf8.bytesOf text)
    let lines := (text.toList.splitOn '\n').map String.ofList
    let asked := lines.takeWhile fun line => !Command.quits line
    ∃ handled left, asked = handled ++ left ∧
      result.queries = relay.traffic [] (["\\dc"] :: handled.map Command.agenda) ∧
      (∃ run, Terminal.OneByOne relay period run ∧
        (Session.Run.after .text period run).pending = [] ∧
        Session.queries (Session.Run.seen .text period run) = result.queries ∧
        Session.actions run = .refresh :: handled.filterMap Command.lineAction?) ∧
      (∀ earlier line later, handled = earlier ++ line :: later →
        (relay.Breaks (relay.traffic [] (["\\dc"] :: earlier.map Command.agenda)) line ↔
          later = [] ∧ result.code = 101)) ∧
      (result.code = 0 ∧ left = [] ∨ result.code = 101 ∧ handled ≠ []) := by
  intro period result lines asked
  obtain ⟨whole, rest, hsplit, hrest, hread⟩ := Text.cutLines_encode text.toList
  have hlines : lines = whole.map String.ofList ++ rest.map String.ofList := by
    rw [← List.map_append, ← hsplit]
  obtain ⟨hwhole, hsent, first, hfirst, hlisted⟩ := Terminal.reached_listed config relay
  let t := Terminal.listed config relay
  let handled := Terminal.handled relay t asked
  let last := handled.foldl (Terminal.handle relay) t
  have hresult : result = ⟨if last.broken then 101 else 0, last.written, last.sent⟩ := by
    apply Terminal.program_of_run
    rw [Utf8.bytesOf_eq_encode, Terminal.run_lines hread hwhole]
    obtain rfl | rfl := hrest
    · simp only [last, handled, asked, hlines, List.map_nil, List.append_nil, t]
    · have hempty : lines = whole.map String.ofList ++ [""] := hlines
      simp only [last, handled, asked, hempty, Terminal.foldl_handled_takeWhile, t]
  -- what has been sent when some lines have been carried out
  have hreached : ∀ done : List String, ∃ moves,
      Session.actions (first ++ moves) = .refresh :: done.filterMap Command.lineAction? ∧
      Terminal.Reached relay period (first ++ moves)
        (done.foldl (Terminal.handle relay) t) ∧
      (done.foldl (Terminal.handle relay) t).sent =
        relay.traffic [] (["\\dc"] :: done.map Command.agenda) := by
    intro done
    obtain ⟨moves, hmoves, hreached, htraffic⟩ := hlisted.handle_all done
    refine ⟨moves, ?_, hreached, ?_⟩
    · rw [Session.actions_append, hfirst, hmoves]
      rfl
    · rw [htraffic, hsent, Relay.traffic_cons]
      simp [Relay.pursue]
  obtain ⟨left, hleft⟩ := Terminal.handled_prefix relay t asked
  refine ⟨handled, left, hleft.symm, ?_, ?_, ?_, ?_⟩
  · obtain ⟨_, _, _, htraffic⟩ := hreached handled
    rw [hresult]
    exact htraffic
  · obtain ⟨moves, hmoves, hall, _⟩ := hreached handled
    rw [hresult]
    exact ⟨first ++ moves, hall.orderly, hall.idle, hall.sent, hmoves⟩
  · intro earlier line later hhandled
    obtain ⟨moves, _, hbefore, htraffic⟩ := hreached earlier
    have hbroken := hbefore.handle_broken (Terminal.not_broken_of_handled hhandled hwhole) line
    have hstep : (earlier ++ [line]).foldl (Terminal.handle relay) t =
        (earlier.foldl (Terminal.handle relay) t).handle relay line := by
      rw [List.foldl_append, List.foldl_cons, List.foldl_nil]
    rw [← htraffic, ← hbroken, ← hstep, hresult]
    constructor
    · intro hline
      obtain rfl := Terminal.eq_nil_of_broken hhandled hline
      refine ⟨rfl, ?_⟩
      have hlast : last.broken = true := by simpa only [last, hhandled] using hline
      simp only [hlast, if_true]
    · rintro ⟨rfl, hcode⟩
      rw [← hhandled]
      by_contra hlast
      simp [last, hlast] at hcode
  · rw [hresult]
    cases hlast : last.broken with
    | true =>
      refine .inr ⟨rfl, fun hnone => ?_⟩
      have hstill : last = t := by simp only [last, hnone, List.foldl_nil]
      rw [hstill, hwhole] at hlast
      cases hlast
    | false =>
      have hall : handled = asked := Terminal.handled_eq_self hlast
      refine .inl ⟨rfl, ?_⟩
      have hasked : handled ++ left = handled ++ [] := by
        rw [List.append_nil, hleft, hall]
      exact List.append_cancel_left hasked

/-- A relay that answers a statement with a note. -/
def Relay.noting (note : String) : Relay := fun _ query =>
  if query = "SELECT 1;" then .ok (.noted note) else .ok (.tabular [])

/-- When the note in the reply to a statement is too long, the next line is not carried out. -/
theorem Terminal.ended_by_note {note : String} (h : 65535 < note.length) :
    let result := Terminal.program (.ok {}) (.noting note) (Utf8.bytesOf "SELECT 1;\nSELECT 2;\n")
    result.code = 101 ∧ result.queries = ["\\dc", "SELECT 1;"] := by
  intro result
  obtain ⟨_, hlisting, run, _, hreached⟩ := Terminal.reached_listed {} (.noting note)
  let t := Terminal.listed {} (.noting note)
  let last := t.perform (.noting note) (.query "SELECT 1;")
  have htrim : Text.trim "SELECT 1;" = "SELECT 1;" := by decide
  have hbroken : last.broken = true := by
    refine (Terminal.act_broken t _ (.query "SELECT 1;")).2
      ⟨"SELECT 1;", .noted note, rfl, by decide, ?_, Renderer.render_noted h⟩
    rw [htrim]
    exact if_pos rfl
  have hlines : Text.cutLines (Utf8.bytesOf "SELECT 1;\nSELECT 2;\n") =
      [Utf8.bytesOf "SELECT 1;\n", Utf8.bytesOf "SELECT 2;\n"] := by decide +kernel
  have hdecode : Utf8.decode (Text.chomp (Utf8.bytesOf "SELECT 1;\n")) =
      .ok "SELECT 1;".toList := by decide +kernel
  have hparse : Command.parse (String.ofList "SELECT 1;".toList) = some (.query "SELECT 1;") := by
    decide +kernel
  have hrun : Terminal.run (.noting note) t (Text.cutLines
      (Utf8.bytesOf "SELECT 1;\nSELECT 2;\n")) = (if last.broken then .broken else .quit, last) := by
    simp only [hlines, Terminal.run, hdecode, hparse]
    rw [if_pos hbroken, if_pos hbroken]
  have hresult : result = ⟨if last.broken then 101 else 0, last.written, last.sent⟩ :=
    Terminal.program_of_run hrun
  obtain ⟨_, _, _, hsent⟩ := hreached.act (.query "SELECT 1;")
  have hqueries : last.sent = (Relay.noting note).pursue ["\\dc"] ["SELECT 1;"] := by
    rw [← hlisting]
    exact hsent
  rw [hresult, if_pos hbroken]
  refine ⟨rfl, ?_⟩
  -- the query is the last one of its line, whether it is accepted or not
  simp only [hqueries, Relay.pursue, ite_self]
  rfl

/-- The reply to the first of two statements has a note that is too long by one character: the
second statement is not sent. -/
theorem terminal_ended_by_wide_reply :
    let note := String.ofList (List.replicate 65536 'a')
    let result := Terminal.program (.ok {}) (.noting note) (Utf8.bytesOf "SELECT 1;\nSELECT 2;\n")
    result.code = 101 ∧ result.queries = ["\\dc", "SELECT 1;"] := by
  apply Terminal.ended_by_note
  rw [String.length_ofList, List.length_replicate]
  decide

end QueryConsole
