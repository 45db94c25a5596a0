import QueryConsole.Proofs.Html.Token

/-!
# Reading tables from HTML

One reader for all tables: it cuts a piece of HTML into tokens, gathers the characters between the
tags, and takes a cell or a line to be finished at its closing tag. The first tag tells what kind of
table it is. Whatever the texts of a table are, the reader gets the table back; the tags are those of
the table without its texts, and the entities are those of the characters that need one.

## Main definitions

- `Html.Sheet`: what a reader has gathered
- `Table.decode`: the reader
- `Table.tokens`: the tokens of a table
- `Table.texts`, `Table.shape`: the texts of a table, and the table without them

## Main results

- `Table.decode_html`: the reader gets every table back
- `Table.tags_htmlChars`, `Table.entities_htmlChars`: no text adds a tag, or an entity of its own
-/

namespace QueryConsole

namespace Html

/-- A tag of a table. -/
def mark (name : String) : Token :=
  .tag name.toList

/-- The tags of a piece of HTML, in order. -/
def tags (cs : List Char) : Option (List (List Char)) :=
  (lex cs).map (List.filterMap Token.tag?)

/-- The entities of a piece of HTML, in order. -/
def entities (cs : List Char) : Option (List (List Char)) :=
  (lex cs).map (List.filterMap Token.entity?)

/-! ## The reader -/

/-- What a reader of a table has gathered: the finished lines, the finished cells of the line it is
in, and the characters since the last cell. -/
structure Sheet where
  lines : List (List String) := []
  cells : List String := []
  text : List Char := []

namespace Sheet

/-- Take one more token into account. -/
def put (s : Sheet) (token : Token) : Option Sheet :=
  if token = mark "/th" ∨ token = mark "/td" ∨ token = mark "/pre" then
    some { s with cells := s.cells ++ [String.ofList s.text], text := [] }
  else if token = mark "/tr" then some { s with lines := s.lines ++ [s.cells], cells := [] }
  else match token.tag? with
    | some _ => some s
    | none => token.char?.map fun c => { s with text := s.text ++ [c] }

/-- Take more tokens into account. -/
def putAll (s : Sheet) (tokens : List Token) : Option Sheet :=
  tokens.foldlM put s

end Sheet

end Html

namespace Table

open Html (Sheet Token mark)

/-- The first tags of the three kinds of tables. -/
def placeholderMark : Token := mark "div class=\"no-results\""

def gridMark : Token := mark "table class=\"result-table\""

def blockMark : Token := mark "div class=\"result-table-wrapper\""

/-- The table that a piece of HTML shows. -/
def decode (html : String) : Option Table := do
  let tokens ← Html.lex html.toList
  let sheet ← ({} : Sheet).putAll tokens
  match tokens with
  | [] => some (.blocks [])
  | first :: _ =>
    if first = placeholderMark then some .empty
    else if first = gridMark then
      match sheet.lines with
      | [] => none
      | columns :: rows => some (.grid columns rows)
    else if first = blockMark then some (.blocks sheet.cells)
    else none

/-! ## The tokens of a table -/

/-- The tokens of a text between tags. -/
def between (opening : List Token) (text : String) (closing : List Token) : List Token :=
  opening ++ text.toList.map Token.ofChar ++ closing

/-- The tokens of a line of a table. -/
def lineTokens (opening closing : String) (cells : List String) : List Token :=
  mark "tr" :: cells.flatMap (between [mark opening] · [mark closing]) ++ [mark "/tr"]

/-- The tokens of a table. -/
def tokens : Table → List Token
  | .empty => between [placeholderMark] nothing [mark "/div"]
  | .grid columns rows =>
    gridMark :: lineTokens "th" "/th" columns ++ rows.flatMap (lineTokens "td" "/td") ++
      [mark "/table"]
  | .blocks texts => texts.flatMap (between [blockMark, mark "pre"] · [mark "/pre", mark "/div"])

/-- The texts of a table, in order. -/
def texts : Table → List String
  | .empty => []
  | .grid columns rows => columns ++ rows.flatten
  | .blocks texts => texts

/-- A table with all its texts taken out. -/
def shape : Table → Table
  | .empty => .empty
  | .grid columns rows =>
    .grid (columns.map fun _ => "") (rows.map fun cells => cells.map fun _ => "")
  | .blocks texts => .blocks (texts.map fun _ => "")

/-! ## Cutting a table into its tokens -/

theorem reads_mark {written name : String} (hwritten : written.toList = '<' :: name.toList ++ ['>'])
    (hname : '>' ∉ name.toList) : Html.Reads written.toList [mark name] := by
  rw [hwritten]
  exact Html.reads_tag hname

theorem reads_enclose {opening closing : String} {before after : List Token} (text : String)
    (hopening : Html.Reads opening.toList before) (hclosing : Html.Reads closing.toList after) :
    Html.Reads (Html.enclose opening text closing) (between before text after) :=
  (hopening.append (Html.reads_escape text.toList)).append hclosing

theorem reads_tableRow {opening closing first last : String}
    (hopening : Html.Reads opening.toList [mark first])
    (hclosing : Html.Reads closing.toList [mark last]) (cells : List String) :
    Html.Reads (Html.tableRow opening closing cells) (lineTokens first last cells) := by
  have hstart : Html.Reads "<tr>".toList [mark "tr"] := reads_mark rfl (by decide)
  have hend : Html.Reads "</tr>".toList [mark "/tr"] := reads_mark rfl (by decide)
  have hcells := Html.Reads.flatMap (l := cells) fun text _ =>
    reads_enclose text hopening hclosing
  exact (hstart.append hcells).append hend

theorem reads_htmlChars (t : Table) : Html.Reads t.htmlChars t.tokens := by
  cases t with
  | empty =>
    have hopening : Html.Reads "<div class=\"no-results\">".toList [placeholderMark] :=
      reads_mark rfl (by decide)
    exact reads_enclose nothing hopening (reads_mark rfl (by decide))
  | grid columns rows =>
    have hstart : Html.Reads "<table class=\"result-table\">".toList [gridMark] :=
      reads_mark rfl (by decide)
    have hend : Html.Reads "</table>".toList [mark "/table"] := reads_mark rfl (by decide)
    have hheader : Html.Reads (Html.tableRow "<th>" "</th>" columns)
        (lineTokens "th" "/th" columns) :=
      reads_tableRow (reads_mark rfl (by decide)) (reads_mark rfl (by decide)) columns
    have hline (cells : List String) : Html.Reads (Html.tableRow "<td>" "</td>" cells)
        (lineTokens "td" "/td" cells) :=
      reads_tableRow (reads_mark rfl (by decide)) (reads_mark rfl (by decide)) cells
    have hrows := Html.Reads.flatMap (l := rows) fun cells _ => hline cells
    exact ((hstart.append hheader).append hrows).append hend
  | blocks texts =>
    have hblock : Html.Reads "<div class=\"result-table-wrapper\">".toList [blockMark] :=
      reads_mark rfl (by decide)
    have hpre : Html.Reads "<pre>".toList [mark "pre"] := reads_mark rfl (by decide)
    have hpreEnd : Html.Reads "</pre>".toList [mark "/pre"] := reads_mark rfl (by decide)
    have hblockEnd : Html.Reads "</div>".toList [mark "/div"] := reads_mark rfl (by decide)
    exact Html.Reads.flatMap fun text _ =>
      reads_enclose text (hblock.append hpre) (hpreEnd.append hblockEnd)

end Table

namespace Html.Sheet

open Table (between lineTokens)

/-! ## Gathering the tokens of a table -/

theorem putAll_append (s : Sheet) (a b : List Token) :
    s.putAll (a ++ b) = (s.putAll a).bind fun s => s.putAll b :=
  List.foldlM_append

theorem putAll_text (s : Sheet) (cs : List Char) :
    s.putAll (cs.map Token.ofChar) = some { s with text := s.text ++ cs } := by
  induction cs generalizing s with
  | nil => simp [putAll]
  | cons c cs ih =>
    -- the token of a character is no tag, so it is gathered
    have hmark : ∀ name, Token.ofChar c ≠ mark name := by
      intro name h
      have htag := congrArg Token.tag? h
      rw [Token.tag?_ofChar] at htag
      cases htag
    have hput : s.put (.ofChar c) = some { s with text := s.text ++ [c] } := by
      simp [put, hmark]
    have hrest := ih { s with text := s.text ++ [c] }
    simp only [putAll] at hrest ⊢
    rw [List.map_cons, List.foldlM_cons, hput, Option.bind_eq_bind, Option.bind_some, hrest]
    simp

/-- Tags at which nothing is finished. -/
def Opens (tokens : List Token) : Prop :=
  ∀ s : Sheet, s.putAll tokens = some s

/-- Tags at which a cell is finished. -/
def Closes (tokens : List Token) : Prop :=
  ∀ s : Sheet, s.putAll tokens =
    some { s with cells := s.cells ++ [String.ofList s.text], text := [] }

theorem putAll_between {s : Sheet} (htext : s.text = []) {opening closing : List Token}
    (text : String) (hopening : Opens opening) (hclosing : Closes closing) :
    s.putAll (between opening text closing) = some { s with cells := s.cells ++ [text] } := by
  rw [between, putAll_append, putAll_append, hopening s, Option.bind_some, putAll_text,
    Option.bind_some, hclosing]
  simp [htext]

/-- Texts between such tags are cells, one after another. -/
theorem putAll_cells {s : Sheet} (htext : s.text = []) {opening closing : List Token}
    (texts : List String) (hopening : Opens opening) (hclosing : Closes closing) :
    s.putAll (texts.flatMap (between opening · closing)) =
      some { s with cells := s.cells ++ texts } := by
  induction texts generalizing s with
  | nil => simp [putAll]
  | cons text texts ih =>
    rw [List.flatMap_cons, putAll_append, putAll_between htext text hopening hclosing,
      Option.bind_some, ih (s := { s with cells := s.cells ++ [text] }) htext]
    simp

theorem putAll_line {s : Sheet} (hcells : s.cells = []) (htext : s.text = []) {first last : String}
    (cells : List String) (hfirst : Opens [mark first]) (hlast : Closes [mark last]) :
    s.putAll (lineTokens first last cells) = some { s with lines := s.lines ++ [cells] } := by
  have hstart : s.putAll [mark "tr"] = some s := rfl
  have hend : ∀ s : Sheet, s.putAll [mark "/tr"] =
      some { s with lines := s.lines ++ [s.cells], cells := [] } := fun s => rfl
  rw [lineTokens, List.cons_append, ← List.singleton_append, putAll_append, hstart,
    Option.bind_some, putAll_append, putAll_cells htext cells hfirst hlast, Option.bind_some, hend]
  simp [hcells]

theorem putAll_lines {s : Sheet} (hcells : s.cells = []) (htext : s.text = [])
    (rows : List (List String)) :
    s.putAll (rows.flatMap (lineTokens "td" "/td")) = some { s with lines := s.lines ++ rows } := by
  induction rows generalizing s with
  | nil => simp [putAll]
  | cons cells rows ih =>
    rw [List.flatMap_cons, putAll_append,
      putAll_line hcells htext cells (fun s => rfl) (fun s => rfl), Option.bind_some,
      ih (s := { s with lines := s.lines ++ [cells] }) hcells htext]
    simp

end Html.Sheet

namespace Table

open Html (Sheet Token mark)

/-! ## Getting a table back -/

theorem putAll_grid (columns : List String) (rows : List (List String)) :
    ({} : Sheet).putAll (tokens (.grid columns rows)) = some { lines := columns :: rows } := by
  have hstart : ({} : Sheet).putAll [gridMark] = some {} := rfl
  have hend : ∀ s : Sheet, s.putAll [mark "/table"] = some s := fun s => rfl
  rw [tokens, List.cons_append, List.cons_append, ← List.singleton_append, Sheet.putAll_append,
    hstart, Option.bind_some, Sheet.putAll_append, Sheet.putAll_append,
    Sheet.putAll_line rfl rfl columns (fun s => rfl) (fun s => rfl), Option.bind_some,
    Sheet.putAll_lines rfl rfl, Option.bind_some, hend]
  rfl

theorem putAll_blocks (texts : List String) :
    ({} : Sheet).putAll (tokens (.blocks texts)) = some { cells := texts } :=
  Sheet.putAll_cells rfl texts (fun _ => rfl) (fun _ => rfl)

/-- The reader gets every table back. -/
theorem decode_html (t : Table) : decode t.html = some t := by
  have hlex : Html.lex t.html.toList = some t.tokens := by
    rw [html, String.toList_ofList]
    exact t.reads_htmlChars.lex_eq
  rw [decode, hlex, Option.bind_eq_bind, Option.bind_some]
  cases t with
  | empty => rfl
  | grid columns rows =>
    rw [putAll_grid]
    rfl
  | blocks texts =>
    rw [putAll_blocks]
    cases texts with
    | nil => rfl
    | cons text texts => rfl

theorem html_injective {t t' : Table} (h : t.html = t'.html) : t = t' := by
  have hdecode : decode t.html = decode t'.html := congrArg decode h
  rw [decode_html, decode_html] at hdecode
  exact Option.some.inj hdecode

/-! ## Tags and entities -/

theorem filterMap_tag?_between (opening closing : List Token) (text : String) :
    (between opening text closing).filterMap Token.tag? =
      opening.filterMap Token.tag? ++ closing.filterMap Token.tag? := by
  simp [between, List.filterMap_append, List.filterMap_map]

theorem filterMap_tag?_cells {opening closing : List Token} (texts : List String) :
    (texts.flatMap (between opening · closing)).filterMap Token.tag? =
      ((texts.map fun _ => "").flatMap (between opening · closing)).filterMap Token.tag? := by
  simp only [List.filterMap_flatMap, List.flatMap_map, filterMap_tag?_between]

/-- The tags of a table are those of the table without its texts. -/
theorem tags_htmlChars (t : Table) : Html.tags t.htmlChars = Html.tags t.shape.htmlChars := by
  rw [Html.tags, Html.tags, t.reads_htmlChars.lex_eq, t.shape.reads_htmlChars.lex_eq]
  simp only [Option.map_some, Option.some.injEq]
  cases t with
  | empty => rfl
  | grid columns rows =>
    have hline : ∀ (first last : String) (cells : List String),
        (lineTokens first last cells).filterMap Token.tag? =
          (lineTokens first last (cells.map fun _ => "")).filterMap Token.tag? := by
      intro first last cells
      simp only [lineTokens, List.cons_append, List.filterMap_cons, List.filterMap_append]
      rw [filterMap_tag?_cells]
    simp only [tokens, shape, List.cons_append, List.filterMap_cons, List.filterMap_append,
      List.filterMap_flatMap, List.flatMap_map]
    simp only [← hline]
  | blocks texts => exact filterMap_tag?_cells texts

theorem filterMap_entity?_cells {opening closing : List Token}
    (hopening : opening.filterMap Token.entity? = [])
    (hclosing : closing.filterMap Token.entity? = []) (texts : List String) :
    (texts.flatMap (between opening · closing)).filterMap Token.entity? =
      texts.flatMap fun text => text.toList.filterMap Html.entityName := by
  simp only [List.filterMap_flatMap, between, List.filterMap_append, List.filterMap_map,
    Token.entity?_comp_ofChar, hopening, hclosing, List.nil_append, List.append_nil]

/-- The entities of a table are those that stand for characters of its texts, one for each of them
that may not stand for itself. -/
theorem entities_htmlChars (t : Table) : Html.entities t.htmlChars =
    some (t.texts.flatMap fun text => text.toList.filterMap Html.entityName) := by
  rw [Html.entities, t.reads_htmlChars.lex_eq]
  simp only [Option.map_some, Option.some.injEq]
  cases t with
  | empty => rfl
  | grid columns rows =>
    have hline : ∀ (first last : String) (cells : List String),
        (lineTokens first last cells).filterMap Token.entity? =
          cells.flatMap fun text => text.toList.filterMap Html.entityName := by
      intro first last cells
      have hcells := @filterMap_entity?_cells [mark first] [mark last] rfl rfl cells
      simp only [lineTokens, List.cons_append, List.filterMap_cons, List.filterMap_append]
      rw [hcells]
      simp [mark, Token.entity?]
    simp only [tokens, texts, List.cons_append, List.filterMap_cons, List.filterMap_append,
      List.filterMap_flatMap, hline]
    rw [List.flatMap_append, List.flatten_eq_flatMap, List.flatMap_assoc]
    simp [gridMark, mark, Token.entity?]
  | blocks texts => exact filterMap_entity?_cells rfl rfl texts

end Table

end QueryConsole
