import QueryConsole.Proofs.Terminal.Script

/-!
# The grammar of command lines

A line is blank, or it is a word and an argument with white space around them and between them. If
the word is one of the command words the line is that command, and else it is a query. There is one
way only to read a line by this grammar, and it is how lines are read.

## Main definitions

- `Command.Takes`, `Command.Alone`: the command words, with an argument and without one
- `Command.Reads`: the grammar of lines

## Main results

- `Command.ofWord_eq_some_iff`, `Command.ofWord_eq_none_iff`: what a word stands for
- `Command.parse_of_reads`, `Command.reads_total`: lines are read by the grammar, and all of them
- `lines_read_by_grammar`: how lines are read, and what follows from it
-/

namespace QueryConsole

open Text (IsWhite Bare Cut)

namespace Command

/-! ## Words -/

/-- The words of the commands that take an argument. -/
inductive Takes : String → (String → Command) → Prop
  | create : Takes "\\create" .create
  | use : Takes "\\use" .use
  | watch : Takes "\\watch" .watch
  | tab : Takes "\\tab" .tab

/-- The words of the commands that take none. -/
inductive Alone : String → Command → Prop
  | unwatch : Alone "\\unwatch" .unwatch
  | graph : Alone "\\graph" .graph
  | q : Alone "\\q" .quit
  | quit : Alone "\\quit" .quit

/-- The command of a word and an argument. A command that takes no argument is the same with any. -/
inductive Named (argument : String) : String → Command → Prop
  | takes {word : String} {make : String → Command} (h : Takes word make) :
      Named argument word (make argument)
  | alone {word : String} {command : Command} (h : Alone word command) :
      Named argument word command

/-- The grammar of lines. What white space stands around a text makes no difference, and neither
does the white space between its word and its argument, unless the text is a query. -/
inductive Reads : String → Option Command → Prop
  /-- a line of white space only -/
  | blank {line : String} (h : IsWhite line) : Reads line none
  /-- a command word, and perhaps an argument -/
  | command {before text after word gap argument : String} {command : Command}
      (hbefore : IsWhite before) (hafter : IsWhite after) (hcut : Cut text word gap argument)
      (h : Named argument word command) : Reads (before ++ text ++ after) (some command)
  /-- a text that begins with any other word -/
  | query {before text after word gap argument : String}
      (hbefore : IsWhite before) (hafter : IsWhite after) (hcut : Cut text word gap argument)
      (h : word ∉ words) : Reads (before ++ text ++ after) (some (.query text))

variable {before text after word gap argument line : String} {command : Command}
  {result : Option Command}

theorem ofWord_eq_some_iff : ofWord argument word = some command ↔ Named argument word command := by
  constructor
  · intro h
    unfold ofWord at h
    split at h
    · cases h
      exact .takes .create
    · cases h
      exact .takes .use
    · cases h
      exact .takes .watch
    · cases h
      exact .alone .unwatch
    · cases h
      exact .alone .graph
    · cases h
      exact .takes .tab
    · cases h
      exact .alone .q
    · cases h
      exact .alone .quit
    · cases h
  · rintro (h | h) <;> cases h <;> rfl

theorem ofWord_eq_none_iff : ofWord argument word = none ↔ word ∉ words := by
  unfold ofWord
  split <;> simp_all [words]

/-- No command word makes a query. -/
theorem Named.ne_query (h : Named argument word command) (text : String) :
    command ≠ .query text := by
  obtain h | h := h <;> cases h <;> exact nofun

/-! ## Lines -/

/-- White space around a line makes no difference to it. -/
theorem parse_surround (hbefore : IsWhite before) (hafter : IsWhite after) (line : String) :
    parse (before ++ line ++ after) = parse line := by
  simp only [parse, Text.trim_surround hbefore hafter]

theorem word_of_cut (h : Cut text word gap argument) : Command.word text = word := by
  rw [Command.word, h.bare_text.trim_eq, h.splitWord_eq.1]

/-- A text in its parts is read by its word. -/
theorem parse_of_cut (h : Cut text word gap argument) :
    parse text = some ((ofWord argument word).getD (.query text)) := by
  rw [parse_eq, word_of_cut h, Command.argument, h.bare_text.trim_eq, h.splitWord_eq.2,
    if_neg h.text_ne]

/-- A line that can be read in a way is read in this way. -/
theorem parse_of_reads (h : Reads line result) : parse line = result := by
  cases h with
  | blank h => rw [parse_eq, if_pos (Text.trim_eq_empty_iff.2 h)]
  | command hbefore hafter hcut h =>
    rw [parse_surround hbefore hafter, parse_of_cut hcut, ofWord_eq_some_iff.2 h, Option.getD_some]
  | query hbefore hafter hcut h =>
    rw [parse_surround hbefore hafter, parse_of_cut hcut, ofWord_eq_none_iff.2 h, Option.getD_none]

/-- Every line can be read in some way. -/
theorem reads_total (line : String) : ∃ result, Reads line result := by
  by_cases hblank : Text.trim line = ""
  · exact ⟨none, .blank (Text.trim_eq_empty_iff.1 hblank)⟩
  obtain ⟨before, after, hbefore, hafter, hline⟩ := Text.exists_surround line
  obtain ⟨word, gap, argument, hcut⟩ := Text.exists_cut (Text.bare_trim line) hblank
  rw [hline]
  cases hword : ofWord argument word with
  | none => exact ⟨_, .query hbefore hafter hcut (ofWord_eq_none_iff.1 hword)⟩
  | some command => exact ⟨_, .command hbefore hafter hcut (ofWord_eq_some_iff.1 hword)⟩

theorem parse_eq_iff : parse line = result ↔ Reads line result := by
  constructor
  · rintro rfl
    obtain ⟨result, h⟩ := reads_total line
    rwa [parse_of_reads h]
  · exact parse_of_reads

theorem parse_eq_none_iff : parse line = none ↔ IsWhite line := by
  rw [parse_eq, ← Text.trim_eq_empty_iff]
  split <;> simp [*]

/-- A command word and an argument, with white space between them. -/
theorem parse_written {make : String → Command} (h : Takes word make) (hgap : gap ≠ "")
    (hwhite : IsWhite gap) (hargument : argument ≠ "") (hbare : Bare argument) :
    parse (word ++ gap ++ argument) = some (make argument) := by
  have hword : word ≠ "" ∧ word.toList.all (!Text.isBlank ·) = true := by
    cases h <;> decide
  have hsolid : ∀ c ∈ word.toList, ¬Text.isBlank c = true := by simpa using hword.2
  have hcut : Cut (word ++ gap ++ argument) word gap argument :=
    ⟨rfl, hword.1, hsolid, hwhite, hbare, iff_of_false hgap hargument⟩
  rw [parse_of_cut hcut, ofWord_eq_some_iff.2 (.takes h), Option.getD_some]

/-- A query is what a line holds between the white space around it, and begins with no command
word. -/
theorem query_of_parse (h : parse line = some (.query text)) :
    ∃ before after word gap argument, IsWhite before ∧ IsWhite after ∧
      line = before ++ text ++ after ∧ Cut text word gap argument ∧ word ∉ words := by
  cases parse_eq_iff.1 h with
  | command _ _ _ hnamed => exact absurd rfl (hnamed.ne_query text)
  | query hbefore hafter hcut hother =>
    exact ⟨_, _, _, _, _, hbefore, hafter, rfl, hcut, hother⟩

/-! ## What is sent -/

/-- A text in its parts is sent as it is, if it is a query. -/
theorem plan_of_cut (h : Cut text word gap argument) :
    (Session.Action.query text).plan = [text] := by
  rw [Session.Action.plan_query, h.bare_text.trim_eq, if_neg h.text_ne]

theorem agenda_of_query (h : parse line = some (.query text)) : agenda line = [text] := by
  obtain ⟨_, _, _, _, _, _, _, _, hcut, _⟩ := query_of_parse h
  rw [agenda_eq, lineAction?, h, Option.bind_some, action?, Option.map_some, Option.getD_some,
    plan_of_cut hcut]

/-- The first word of a statement. -/
theorem word_statement {first : String} (hne : first ≠ "")
    (hfirst : first.toList.all (!Text.isBlank ·) = true) (rest : String) :
    Command.word (first ++ " " ++ rest ++ ";") = first := by
  have hsolid : ∀ c ∈ first.toList, ¬Text.isBlank c = true := by simpa using hfirst
  have htoList : (first ++ " " ++ rest ++ ";").toList =
      first.toList ++ (' ' :: rest.toList ++ [';']) := by
    simp
  have hbare : Bare (first ++ " " ++ rest ++ ";") := by
    constructor
    · intro c hc
      have hsome : first.toList ≠ [] := mt String.toList_eq_nil_iff.1 hne
      rw [htoList, List.head?_append_of_ne_nil _ hsome] at hc
      exact hsolid c (List.mem_of_head? hc)
    · intro c hc
      rw [htoList, ← List.append_assoc, List.getLast?_concat, Option.some.injEq] at hc
      rw [← hc]
      decide
  have hword : (first ++ " " ++ rest ++ ";").toList.takeWhile (!Text.isBlank ·) =
      first.toList := by
    rw [htoList, List.takeWhile_append_of_pos (List.all_eq_true.1 hfirst), List.cons_append,
      List.takeWhile_cons_of_neg (by decide), List.append_nil]
  rw [Command.word, hbare.trim_eq]
  simp only [Text.splitWord, Text.splitWordChars, hword, String.ofList_toList]

theorem word_create (name : String) :
    Command.word ("CREATE DATABASE " ++ name ++ ";") = "CREATE" := by
  have hspace : "CREATE DATABASE " = "CREATE" ++ " " ++ "DATABASE " := by decide
  have hstatement : Command.word ("CREATE" ++ " " ++ ("DATABASE " ++ name) ++ ";") = "CREATE" :=
    word_statement (by decide) (by decide) _
  rwa [← String.append_assoc, ← hspace] at hstatement

theorem word_use (name : String) : Command.word ("USE " ++ name ++ ";") = "USE" := by
  have hspace : "USE " = "USE" ++ " " := by decide
  rw [hspace]
  exact word_statement (by decide) (by decide) name

/-- Nothing that is sent for a line begins with a command word. -/
theorem word_of_agenda (line : String) : ∀ query ∈ agenda line, Command.word query ∉ words := by
  rw [agenda_eq, lineAction?]
  cases hparse : parse line with
  | none => simp
  | some command =>
    rw [Option.bind_some]
    cases command with
    | create name =>
      simp only [action?, Option.map_some, Option.getD_some, Session.Action.plan_create]
      split
      · simp only [List.forall_mem_cons, word_create]
        decide
      · simp
    | use name =>
      simp only [action?, Option.map_some, Option.getD_some, Session.Action.plan_use]
      split
      · simp only [List.forall_mem_cons, word_use]
        decide
      · simp
    | graph =>
      simp only [action?, Option.map_some, Option.getD_some, Session.Action.plan_refresh]
      decide
    | watch table => simp [action?]
    | unwatch => simp [action?]
    | tab name => cases htab : Tab.parse name <;> simp [action?, htab, Except.toOption]
    | quit => simp [action?]
    | query text =>
      obtain ⟨_, _, _, _, _, _, _, _, hcut, hword⟩ := query_of_parse hparse
      simp only [action?, Option.map_some, Option.getD_some, plan_of_cut hcut,
        List.forall_mem_singleton, word_of_cut hcut]
      exact hword

end Command

/-- Lines are read by the grammar and not otherwise, and only white space says nothing. So white
space around a line makes no difference, and a command that is written with its argument is read
back. A query is what its line holds between the white space around it, and is sent just so; and
nothing that is ever sent for a line begins with a command word. -/
theorem lines_read_by_grammar :
    (∀ line result, Command.parse line = result ↔ Command.Reads line result) ∧
    (∀ line, Command.parse line = none ↔ IsWhite line) ∧
    (∀ before line after, IsWhite before → IsWhite after →
      Command.parse (before ++ line ++ after) = Command.parse line) ∧
    (∀ word make gap argument, Command.Takes word make → gap ≠ "" → IsWhite gap →
      argument ≠ "" → Bare argument →
      Command.parse (word ++ gap ++ argument) = some (make argument)) ∧
    (∀ line text, Command.parse line = some (.query text) → Command.agenda line = [text] ∧
      ∃ before after word gap argument, IsWhite before ∧ IsWhite after ∧
        line = before ++ text ++ after ∧ Cut text word gap argument ∧ word ∉ Command.words) ∧
    ∀ line, ∀ query ∈ Command.agenda line, Command.word query ∉ Command.words := by
  refine ⟨?_, ?_, ?_, ?_, ?_, Command.word_of_agenda⟩
  · exact fun line result => Command.parse_eq_iff
  · exact fun line => Command.parse_eq_none_iff
  · exact fun before line after hbefore hafter => Command.parse_surround hbefore hafter line
  · intro word make gap argument h hgap hwhite hargument hbare
    exact Command.parse_written h hgap hwhite hargument hbare
  · exact fun line text h => ⟨Command.agenda_of_query h, Command.query_of_parse h⟩

/-- A command and its argument behind an ideographic space, and a query that only looks like a
command. -/
theorem lines_read_by_grammar_spaced :
    (Command.Takes "\\create" .create ∧ "\u3000 " ≠ "" ∧ IsWhite "\u3000 " ∧ "my shop" ≠ "" ∧
        Bare "my shop") ∧
      Command.parse ("\\create" ++ "\u3000 " ++ "my shop") = some (.create "my shop") ∧
      Command.parse "\t\\quitx  now\u00a0" = some (.query "\\quitx  now") ∧
      Command.agenda "\t\\quitx  now\u00a0" = ["\\quitx  now"] := by
  obtain ⟨_, _, _, hwritten, hquery, _⟩ := lines_read_by_grammar
  have hgap : IsWhite "\u3000 " := by decide +kernel
  have hargument : Bare "my shop" := by decide +kernel
  have hreads : Command.parse "\t\\quitx  now\u00a0" = some (.query "\\quitx  now") := by
    decide +kernel
  refine ⟨⟨.create, by decide, hgap, by decide, hargument⟩, ?_, hreads, (hquery _ _ hreads).1⟩
  exact hwritten _ _ _ _ .create (by decide) hgap (by decide) hargument

/-- A command word with nothing behind it stands for its command all the same. -/
example : Command.parse " \\use\t" = some (.use "") := by decide +kernel

end QueryConsole
