import QueryConsole.Table.Html

/-!
# Tokens of HTML

A piece of HTML is cut into tags, entities and characters that stand for themselves. The cut knows
nothing of tables: a tag is whatever stands between `<` and `>`, an entity whatever stands between
`&` and `;`. What a text becomes when it is escaped is cut into one token for each of its characters,
and none of them is a tag.

## Main definitions

- `Html.Token`, `Html.lex`: tokens, and the cut of a piece of HTML into them
- `Html.Token.ofChar`, `Html.Token.char?`: a character of a text as a token, and back
- `Html.Reads`: a piece of HTML is cut into some tokens wherever it stands

## Main results

- `Html.reads_escape`: an escaped text is cut into the tokens of its characters
-/

namespace QueryConsole

namespace Html

/-- A part of a piece of HTML. -/
inductive Token
  /-- what stands between `<` and `>` -/
  | tag (name : List Char)
  /-- what stands between `&` and `;` -/
  | entity (name : List Char)
  /-- a character that stands for itself -/
  | char (c : Char)
  deriving DecidableEq, Repr

/-- Where a reader of HTML is, and what it has read of a tag or an entity, the latest first. -/
inductive Place
  | text
  | tag (read : List Char)
  | entity (read : List Char)

/-- The tokens of what lies before a reader, unless it ends within a tag or an entity. -/
def lexFrom : Place → List Char → Option (List Token)
  | .text, [] => some []
  | .tag _, [] => none
  | .entity _, [] => none
  | .text, c :: cs =>
    if c = '<' then lexFrom (.tag []) cs
    else if c = '&' then lexFrom (.entity []) cs
    else (lexFrom .text cs).map (.char c :: ·)
  | .tag read, c :: cs =>
    if c = '>' then (lexFrom .text cs).map (.tag read.reverse :: ·)
    else lexFrom (.tag (c :: read)) cs
  | .entity read, c :: cs =>
    if c = ';' then (lexFrom .text cs).map (.entity read.reverse :: ·)
    else lexFrom (.entity (c :: read)) cs

/-- The tokens of a piece of HTML. -/
def lex (cs : List Char) : Option (List Token) :=
  lexFrom .text cs

/-- The entity that stands for a character, if it may not stand for itself. -/
def entityName (c : Char) : Option (List Char) :=
  if c = '&' then some "amp".toList
  else if c = '<' then some "lt".toList
  else if c = '>' then some "gt".toList
  else if c = '"' then some "quot".toList
  else if c = '\'' then some "#x27".toList
  else if c = '/' then some "#x2f".toList
  else none

/-- The character that an entity stands for. -/
def entityChar (name : List Char) : Option Char :=
  if name = "amp".toList then some '&'
  else if name = "lt".toList then some '<'
  else if name = "gt".toList then some '>'
  else if name = "quot".toList then some '"'
  else if name = "#x27".toList then some '\''
  else if name = "#x2f".toList then some '/'
  else none

namespace Token

/-- A character of a text as a token. -/
def ofChar (c : Char) : Token :=
  match entityName c with
  | some name => .entity name
  | none => .char c

/-- The character that a token stands for. -/
def char? : Token → Option Char
  | .tag _ => none
  | .entity name => entityChar name
  | .char c => some c

/-- The tag that a token is. -/
def tag? : Token → Option (List Char)
  | .tag name => some name
  | _ => none

/-- The entity that a token is. -/
def entity? : Token → Option (List Char)
  | .entity name => some name
  | _ => none

end Token

/-! ## Single characters -/

/-- A character has an entity and is escaped as that, or it has none and stands for itself. -/
theorem escapeChar_cases (c : Char) :
    (∃ name, entityName c = some name ∧ entityChar name = some c ∧ ';' ∉ name ∧
      escapeChar c = '&' :: name ++ [';']) ∨
    (entityName c = none ∧ c ≠ '<' ∧ c ≠ '&' ∧ escapeChar c = [c]) := by
  by_cases hspecial : c = '&' ∨ c = '<' ∨ c = '>' ∨ c = '"' ∨ c = '\'' ∨ c = '/'
  · left
    obtain rfl | rfl | rfl | rfl | rfl | rfl := hspecial <;> exact ⟨_, rfl, by decide⟩
  · simp only [not_or] at hspecial
    obtain ⟨hamp, hlt, hgt, hquot, happ, hslash⟩ := hspecial
    exact .inr ⟨by simp [entityName, hamp, hlt, hgt, hquot, happ, hslash], hlt, hamp,
      by simp [escapeChar, hamp, hlt, hgt, hquot, happ, hslash]⟩

@[simp] theorem Token.char?_ofChar (c : Char) : (Token.ofChar c).char? = some c := by
  obtain ⟨name, hname, hchar, _, _⟩ | ⟨hname, _⟩ := escapeChar_cases c
  · simp [ofChar, hname, char?, hchar]
  · simp [ofChar, hname, char?]

@[simp] theorem Token.tag?_ofChar (c : Char) : (Token.ofChar c).tag? = none := by
  unfold ofChar
  cases entityName c <;> rfl

@[simp] theorem Token.entity?_ofChar (c : Char) : (Token.ofChar c).entity? = entityName c := by
  unfold ofChar
  cases entityName c <;> rfl

theorem Token.entity?_comp_ofChar : Token.entity? ∘ Token.ofChar = entityName :=
  funext Token.entity?_ofChar

theorem lexFrom_entity {name : List Char} (h : ';' ∉ name) (read rest : List Char) :
    lexFrom (.entity read) (name ++ ';' :: rest) =
      (lexFrom .text rest).map (.entity (read.reverse ++ name) :: ·) := by
  induction name generalizing read with
  | nil => simp [lexFrom]
  | cons c name ih =>
    obtain ⟨hc, hname⟩ := List.ne_and_not_mem_of_not_mem_cons h
    rw [List.cons_append, lexFrom, if_neg hc.symm, ih hname]
    simp

theorem lexFrom_tag {name : List Char} (h : '>' ∉ name) (read rest : List Char) :
    lexFrom (.tag read) (name ++ '>' :: rest) =
      (lexFrom .text rest).map (.tag (read.reverse ++ name) :: ·) := by
  induction name generalizing read with
  | nil => simp [lexFrom]
  | cons c name ih =>
    obtain ⟨hc, hname⟩ := List.ne_and_not_mem_of_not_mem_cons h
    rw [List.cons_append, lexFrom, if_neg hc.symm, ih hname]
    simp

/-! ## Pieces of HTML -/

/-- A piece of HTML is cut into some tokens, whatever follows it. -/
def Reads (cs : List Char) (tokens : List Token) : Prop :=
  ∀ rest, lex (cs ++ rest) = (lex rest).map (tokens ++ ·)

theorem Reads.lex_eq {cs : List Char} {tokens : List Token} (h : Reads cs tokens) :
    lex cs = some tokens := by
  simpa [lex, lexFrom] using h []

theorem Reads.nil : Reads [] [] := by
  intro rest
  simp

theorem Reads.append {cs ds : List Char} {ts us : List Token} (hc : Reads cs ts)
    (hd : Reads ds us) : Reads (cs ++ ds) (ts ++ us) := by
  intro rest
  rw [List.append_assoc, hc, hd, Option.map_map]
  simp [Function.comp_def]

theorem Reads.flatMap {α : Type} {l : List α} {f : α → List Char} {g : α → List Token}
    (h : ∀ a ∈ l, Reads (f a) (g a)) : Reads (l.flatMap f) (l.flatMap g) := by
  induction l with
  | nil => exact .nil
  | cons a l ih =>
    obtain ⟨ha, hl⟩ := List.forall_mem_cons.1 h
    exact ha.append (ih hl)

theorem reads_tag {name : List Char} (h : '>' ∉ name) :
    Reads ('<' :: name ++ ['>']) [.tag name] := by
  intro rest
  have hlex : lex ('<' :: (name ++ '>' :: rest)) = (lex rest).map (.tag name :: ·) :=
    lexFrom_tag h [] rest
  simpa using hlex

theorem reads_escapeChar (c : Char) : Reads (escapeChar c) [.ofChar c] := by
  intro rest
  obtain ⟨name, hname, _, hend, he⟩ | ⟨hname, hlt, hamp, he⟩ := escapeChar_cases c
  · have hlex : lex ('&' :: (name ++ ';' :: rest)) = (lex rest).map (.entity name :: ·) :=
      lexFrom_entity hend [] rest
    simpa [he, Token.ofChar, hname] using hlex
  · simp [he, Token.ofChar, hname, lex, lexFrom, hlt, hamp]

/-- An escaped text is cut into one token for each of its characters. -/
theorem reads_escape (cs : List Char) : Reads (escape cs) (cs.map Token.ofChar) := by
  rw [escape, List.map_eq_flatMap]
  exact Reads.flatMap fun c _ => reads_escapeChar c

end Html

end QueryConsole
