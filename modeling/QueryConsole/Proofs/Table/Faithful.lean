import Mathlib.Data.List.Forall2
import QueryConsole.Presentation
import QueryConsole.Proofs.Html.Sheet

/-!
# Tables in HTML are faithful

What table a reply means is said row by row and cell by cell, without the function that builds it.
Every reply but a failure means exactly one table, and the HTML that is shown for it can be read back
to that table. So two replies that look the same mean the same, and no text of the daemon can open,
close or alter a tag or an entity.

## Main definitions

- `Row.IsVoid`, `Reply.IsVoid`: rows and replies without anything to show
- `Table.Meant`: the table that a reply means
- `Table.Faithful`: a table is what is meant and what can be read from the HTML shown

## Main results

- `Table.meant_iff`: a reply means the one table that is built for it
- `html_tables_faithful`: the HTML of every reply is faithful
-/

namespace QueryConsole

/-- A row without anything to show: an empty record, or null. -/
inductive Row.IsVoid : Row → Prop
  | empty : IsVoid (.record [])
  | null : IsVoid (.scalar .null)

/-- A reply without anything to show. -/
inductive Reply.IsVoid : Reply → Prop
  | unlisted : IsVoid (.listing [])
  | rows {rows : List Row} (h : ∀ row ∈ rows, row.IsVoid) : IsVoid (.tabular rows)

namespace Table

/-- The cell of a record under a column. -/
inductive CellMeant (members : List (String × Json)) (column : String) : String → Prop
  | shown {v : Json} (h : Json.lookup members column = some v) :
    CellMeant members column v.display
  | missing (h : Json.lookup members column = none) : CellMeant members column ""

/-- The cells of a row under the columns of a header. -/
inductive LineMeant (columns : List String) : Row → List String → Prop
  /-- a record has a cell for each column -/
  | record {members : List (String × Json)} {cells : List String}
    (h : List.Forall₂ (CellMeant members) columns cells) : LineMeant columns (.record members) cells
  /-- any other row is a single cell -/
  | label {row : Row} {text : String} (hrow : ∀ members, row ≠ .record members)
    (h : row.label = some text) : LineMeant columns row [text]
  | null : LineMeant columns (.scalar .null) [""]

/-- The table that a reply means. -/
inductive Meant : Reply → Table → Prop
  | void {reply : Reply} (h : reply.IsVoid) : Meant reply .empty
  /-- the columns of the first row head a line for each row -/
  | lines {members : List (String × Json)} {rest : List Row} {lines : List (List String)}
    (hfirst : members ≠ [])
    (hlines : List.Forall₂ (LineMeant (members.map Prod.fst)) (.record members :: rest) lines) :
    Meant (.tabular (.record members :: rest)) (.grid (members.map Prod.fst) lines)
  /-- without columns, each row that has a label is a block -/
  | labels {first : Row} {rest : List Row}
    (hfirst : ∀ members, first = .record members → members = [])
    (hfilled : ∃ row ∈ first :: rest, ¬row.IsVoid) :
    Meant (.tabular (first :: rest)) (.blocks ((first :: rest).filterMap Row.label))
  | databases {databases : List Database} (h : databases ≠ []) :
    Meant (.listing databases)
      (.grid ["name", "tables"] (databases.map fun d => [d.name, ", ".intercalate d.tables]))

/-- A table is the one that a reply means, and the one that can be read from the HTML shown. -/
structure Faithful (reply : Reply) (t : Table) : Prop where
  meant : Meant reply t
  unique : ∀ other, Meant reply other → other = t
  shown : Renderer.html.render reply = some (.html t.html)
  /-- the HTML can be read back -/
  decoded : decode t.html = some t
  /-- so a reply that looks the same means the same -/
  distinct : ∀ other, Renderer.html.render other = some (.html t.html) → Meant other t
  placeholder : t.html = "<div class=\"no-results\">No results</div>" ↔ reply.IsVoid
  /-- the tags do not depend on the texts -/
  tags : Html.tags t.html.toList = Html.tags t.shape.html.toList
  /-- and the entities are those of the characters in the texts that need one -/
  entities : Html.entities t.html.toList =
    some (t.texts.flatMap fun text => text.toList.filterMap Html.entityName)

/-! ## The table that is built is the one that is meant -/

theorem label_eq_none_iff {row : Row} : row.label = none ↔ row.IsVoid := by
  constructor
  · intro h
    match row, h with
    | .record [], _ => exact .empty
    | .scalar .null, _ => exact .null
  · rintro (_ | _) <;> rfl

theorem cellMeant_iff {members : List (String × Json)} {column cell : String} :
    CellMeant members column cell ↔
      ((Json.lookup members column).map Json.display).getD "" = cell := by
  cases hlookup : Json.lookup members column with
  | none =>
    constructor
    · rintro (h | _)
      · cases hlookup.symm.trans h
      · rfl
    · rintro rfl
      exact .missing hlookup
  | some v =>
    constructor
    · rintro (h | h)
      · obtain rfl := Option.some.inj (hlookup.symm.trans h)
        rfl
      · cases hlookup.symm.trans h
    · rintro rfl
      exact .shown hlookup

theorem forall₂_iff_map {α β : Type} (f : α → β) {R : α → β → Prop}
    (h : ∀ a b, R a b ↔ f a = b) {l : List α} {l' : List β} :
    List.Forall₂ R l l' ↔ l.map f = l' := by
  have hR : R = fun a b => f a = b := funext fun a => funext fun b => propext (h a b)
  rw [hR, ← List.forall₂_map_left_iff, List.forall₂_eq_eq_eq]

theorem lineMeant_iff {columns : List String} {row : Row} {line : List String} :
    LineMeant columns row line ↔ cells columns row = line := by
  cases row with
  | record members =>
    have hcells : List.Forall₂ (CellMeant members) columns line ↔
        cells columns (.record members) = line :=
      forall₂_iff_map (fun column => ((Json.lookup members column).map Json.display).getD "")
        fun _ _ => cellMeant_iff
    rw [← hcells]
    constructor
    · rintro (h | ⟨hrow, _⟩)
      · exact h
      · exact absurd rfl (hrow members)
    · exact .record
  | text s =>
    constructor
    · rintro (_ | ⟨_, h⟩)
      cases h
      rfl
    · rintro rfl
      exact .label (fun _ h => by cases h) rfl
  | scalar v =>
    constructor
    · rintro (_ | ⟨_, h⟩ | _)
      · rw [cells, h]
        · rfl
        · intro _ hrow
          cases hrow
      · rfl
    · rintro rfl
      cases hlabel : (Row.scalar v).label with
      | none =>
        obtain _ | _ := label_eq_none_iff.1 hlabel
        exact .null
      | some text =>
        rw [cells, hlabel]
        · exact .label (fun _ h => by cases h) hlabel
        · intro _ hrow
          cases hrow

theorem forall₂_lineMeant_iff {columns : List String} {rows : List Row}
    {lines : List (List String)} :
    List.Forall₂ (LineMeant columns) rows lines ↔ rows.map (cells columns) = lines :=
  forall₂_iff_map (cells columns) fun _ _ => lineMeant_iff

theorem filterMap_label_eq_nil_iff {rows : List Row} :
    rows.filterMap Row.label = [] ↔ ∀ row ∈ rows, row.IsVoid := by
  simp [List.filterMap_eq_nil_iff, label_eq_none_iff]

theorem columns_eq_nil_iff {row : Row} :
    row.columns = [] ↔ ∀ members, row = .record members → members = [] := by
  cases row with
  | record members => simp [Row.columns]
  | text s => simp [Row.columns]
  | scalar v => simp [Row.columns]

theorem ofLabels_eq {labels : List String} (h : labels ≠ []) : ofLabels labels = .blocks labels := by
  cases labels with
  | nil => exact absurd rfl h
  | cons label labels => rfl

theorem ofRows_of_void {rows : List Row} (h : ∀ row ∈ rows, row.IsVoid) : ofRows rows = .empty := by
  cases rows with
  | nil => rfl
  | cons first rest =>
    have hfirst : first.columns = [] := by
      obtain _ | _ := h first List.mem_cons_self <;> rfl
    rw [ofRows, hfirst, filterMap_label_eq_nil_iff.2 h]
    rfl

theorem ofRows_of_columns {first : Row} {rest : List Row} (h : first.columns ≠ []) :
    ofRows (first :: rest) = .grid first.columns ((first :: rest).map (cells first.columns)) := by
  rw [ofRows]
  split
  · exact absurd ‹_› h
  · rfl

theorem ofRows_of_labels {first : Row} {rest : List Row} (hfirst : first.columns = [])
    (hfilled : (first :: rest).filterMap Row.label ≠ []) :
    ofRows (first :: rest) = .blocks ((first :: rest).filterMap Row.label) := by
  rw [ofRows, hfirst]
  exact ofLabels_eq hfilled

theorem ofReply_of_meant {reply : Reply} {t : Table} (h : Meant reply t) : ofReply reply = .ok t := by
  cases h with
  | void h =>
    cases h with
    | unlisted => rfl
    | rows h => rw [ofReply, ofRows_of_void h]
  | @lines members rest lines hfirst hlines =>
    have hcolumns : (Row.record members).columns ≠ [] := by simpa [Row.columns] using hfirst
    obtain rfl := forall₂_lineMeant_iff.1 hlines
    rw [ofReply, ofRows_of_columns hcolumns]
    rfl
  | labels hfirst hfilled =>
    obtain ⟨row, hrow, hlabel⟩ := hfilled
    have hsome : (_ :: _).filterMap Row.label ≠ [] := fun hnone =>
      hlabel (filterMap_label_eq_nil_iff.1 hnone row hrow)
    rw [ofReply, ofRows_of_labels (columns_eq_nil_iff.2 hfirst) hsome]
  | @databases databases h =>
    cases databases with
    | nil => exact absurd rfl h
    | cons d databases => rfl

theorem meant_of_ofRows (rows : List Row) : Meant (.tabular rows) (ofRows rows) := by
  by_cases hvoid : ∀ row ∈ rows, row.IsVoid
  · rw [ofRows_of_void hvoid]
    exact .void (.rows hvoid)
  · cases rows with
    | nil => simp at hvoid
    | cons first rest =>
      by_cases hcolumns : first.columns = []
      · rw [ofRows_of_labels hcolumns fun hnone => hvoid (filterMap_label_eq_nil_iff.1 hnone)]
        refine .labels (columns_eq_nil_iff.1 hcolumns) ?_
        simpa only [not_forall, exists_prop] using hvoid
      · rw [ofRows_of_columns hcolumns]
        match first, hcolumns with
        | .record members, hcolumns =>
          refine .lines (by simpa [Row.columns] using hcolumns) ?_
          exact forall₂_lineMeant_iff.2 rfl

/-- A reply means the table that is built for it, and no other. -/
theorem meant_iff {reply : Reply} {t : Table} : Meant reply t ↔ ofReply reply = .ok t := by
  refine ⟨ofReply_of_meant, fun h => ?_⟩
  cases reply with
  | failure message => cases h
  | tabular rows =>
    obtain rfl := Except.ok.inj h
    exact meant_of_ofRows rows
  | listing databases =>
    obtain rfl := Except.ok.inj h
    cases databases with
    | nil => exact .void .unlisted
    | cons d databases => exact .databases (by simp)

/-! ## What is shown -/

theorem render_html {reply : Reply} {t : Table} (h : ofReply reply = .ok t) :
    Renderer.html.render reply = some (.html t.html) := by
  simp [Renderer.render, Renderer.table, h]

/-- A reply that is shown as a table in HTML means that table. -/
theorem meant_of_render {reply : Reply} {t : Table}
    (h : Renderer.html.render reply = some (.html t.html)) : Meant reply t := by
  rw [meant_iff]
  cases htable : ofReply reply with
  | error message => simp [Renderer.render, Renderer.table, htable] at h
  | ok t' =>
    have hsame : t'.html = t.html :=
      Presentation.html.inj (Option.some.inj ((render_html htable).symm.trans h))
    rw [html_injective hsame]

theorem isVoid_iff_meant {reply : Reply} : reply.IsVoid ↔ Meant reply .empty := by
  refine ⟨.void, ?_⟩
  rintro ⟨h⟩
  exact h

theorem faithful {reply : Reply} {t : Table} (h : Meant reply t) : Faithful reply t where
  meant := h
  unique other hother := by
    have hsame := (meant_iff.1 hother).symm.trans (meant_iff.1 h)
    exact Except.ok.inj hsame
  shown := render_html (meant_iff.1 h)
  decoded := decode_html t
  distinct _ := meant_of_render
  placeholder := by
    rw [isVoid_iff_meant, meant_iff, meant_iff.1 h, Except.ok.injEq]
    constructor
    · intro hhtml
      have hempty : t.html = Table.empty.html := hhtml
      exact html_injective hempty
    · rintro rfl
      rfl
  tags := by simpa [html] using tags_htmlChars t
  entities := by simpa [html] using entities_htmlChars t

end Table

/-- The HTML of a reply that is no failure shows the one table that the reply means. It can be read
back to that table by a reader that knows nothing of the reply, so another reply looks the same only
if it means the same, and it is the placeholder exactly if there is nothing to show. Whatever the
daemon's texts are, the tags are those of a table of the same shape without texts, and each entity
stands for one character of a text. -/
theorem html_tables_faithful (reply : Reply) (h : reply.isFailure = false) :
    ∃ t, Table.Faithful reply t := by
  cases reply with
  | tabular rows => exact ⟨_, Table.faithful (Table.meant_iff.2 rfl)⟩
  | listing databases => exact ⟨_, Table.faithful (Table.meant_iff.2 rfl)⟩
  | failure message => cases h

/-- A record whose column is named like a tag and whose text looks like the end of a cell and an
entity, a text and a null below it. -/
theorem html_tables_faithful_hostile :
    let reply : Reply := .tabular [.record [("<b>", .text "</td>&lt;")], .text "'", .scalar .null]
    reply.isFailure = false ∧ ∃ t, Table.Faithful reply t ∧
      t = .grid ["<b>"] [["</td>&lt;"], ["'"], [""]] ∧
      t.html = "<table class=\"result-table\"><tr><th>&lt;b&gt;</th></tr>" ++
        "<tr><td>&lt;&#x2f;td&gt;&amp;lt;</td></tr><tr><td>&#x27;</td></tr>" ++
        "<tr><td></td></tr></table>" := by
  intro reply
  obtain ⟨t, ht⟩ := html_tables_faithful reply rfl
  have htable := ht.unique _ (Table.meant_iff.2 rfl)
  exact ⟨rfl, t, ht, by rw [← htable]; decide +kernel, by rw [← htable]; decide +kernel⟩

end QueryConsole
