import Mathlib.Algebra.GroupWithZero.Nat
import Mathlib.Order.Bounds.Basic
import QueryConsole.Proofs.Table.Faithful
import QueryConsole.Proofs.Text.Blank

/-!
# The columns of a plain table

A table in plain text is set in columns. Each is as wide as its widest cell, whatever rows lack
cells, and each begins at the same place in every line. Only white space at the end of a line is
taken off, so no cell is cut. All this is so of tables whose columns are not too wide for formatting;
a table with a wider column has no text.

## Main definitions

- `Table.lengths`: the lengths of the cells of a column
- `Table.start`: where a column begins
- `Table.SetIn`: a line that is set in columns
- `Table.ShowsCells`: a line that shows the cells of a row

## Main results

- `Table.isGreatest_widths`: the width of a column is the length of its longest cell
- `Table.setIn_intercalate`: where the fields of a line stand
- `Table.gridLines_eq`: a grid has lines exactly if no column is too wide
- `plain_tables_line_up`: the lines of every table in plain text
- `wide_table_unset`: a table that has none
-/

namespace QueryConsole

namespace Table

variable {columns row : List String} {rows : List (List String)} {widths : List Nat}

/-! ## Widths -/

/-- The lengths of the cells of a column; a missing cell is empty. -/
def lengths (lines : List (List String)) (column : Nat) : Set Nat :=
  {n | ∃ line ∈ lines, (cellAt line column).length = n}

theorem lengths_concat (lines : List (List String)) (row : List String) (column : Nat) :
    lengths (lines ++ [row]) column = insert (cellAt row column).length (lengths lines column) := by
  ext n
  simp only [lengths, Set.mem_insert_iff, Set.mem_ofPred_eq, List.mem_append, List.mem_singleton]
  constructor
  · rintro ⟨line, hline | rfl, rfl⟩
    · exact .inr ⟨line, hline, rfl⟩
    · exact .inl rfl
  · rintro (rfl | ⟨line, hline, rfl⟩)
    · exact ⟨row, .inr rfl, rfl⟩
    · exact ⟨line, .inl hline, rfl⟩

theorem length_widen (widths : List Nat) (row : List String) :
    (widen widths row).length = widths.length := by
  induction widths generalizing row with
  | nil => rfl
  | cons width widths ih =>
    cases row with
    | nil => rfl
    | cons cell row => rw [widen, List.length_cons, ih, List.length_cons]

theorem getElem?_widen (widths : List Nat) (row : List String) (column : Nat) :
    (widen widths row)[column]? =
      widths[column]?.map fun width => max (cellAt row column).length width := by
  induction widths generalizing row column with
  | nil => rfl
  | cons width widths ih =>
    cases row with
    | nil =>
      -- a missing cell is empty, and no column is narrower than that
      have hempty : cellAt [] column = "" := rfl
      simp [widen, hempty]
    | cons cell row =>
      cases column with
      | zero => simp [widen, cellAt, Nat.max_comm]
      | succ column => simpa [widen, cellAt] using ih row column

/-- Columns are as wide as the longest cell of the lines so far. -/
def Fits (lines : List (List String)) (widths : List Nat) : Prop :=
  ∀ column width, widths[column]? = some width → IsGreatest (lengths lines column) width

theorem fits_header (columns : List String) : Fits [columns] (columns.map String.length) := by
  intro column width hwidth
  rw [List.getElem?_map] at hwidth
  obtain ⟨cell, hcell, rfl⟩ := Option.map_eq_some_iff.1 hwidth
  have hcellAt : cellAt columns column = cell := by
    rw [cellAt, List.getD_eq_getElem?_getD, hcell, Option.getD_some]
  refine ⟨⟨columns, List.mem_singleton_self _, by rw [hcellAt]⟩, ?_⟩
  rintro _ ⟨line, hline, rfl⟩
  rw [List.mem_singleton.1 hline, hcellAt]

theorem Fits.widen {lines : List (List String)} (h : Fits lines widths) (row : List String) :
    Fits (lines ++ [row]) (widen widths row) := by
  intro column width hwidth
  rw [getElem?_widen] at hwidth
  obtain ⟨old, hold, rfl⟩ := Option.map_eq_some_iff.1 hwidth
  rw [lengths_concat]
  exact (h column old hold).insert _

theorem Fits.foldl {lines : List (List String)} (rows : List (List String))
    (h : Fits lines widths) : Fits (lines ++ rows) (rows.foldl Table.widen widths) := by
  induction rows generalizing lines widths with
  | nil => rwa [List.append_nil]
  | cons row rows ih =>
    have hrest := ih (h.widen row)
    rwa [List.append_assoc] at hrest

/-- The width of a column is the length of its longest cell, the header included. -/
theorem isGreatest_widths (columns : List String) (rows : List (List String)) :
    Fits (columns :: rows) (Table.widths columns rows) :=
  (fits_header columns).foldl rows

theorem length_widths (columns : List String) (rows : List (List String)) :
    (Table.widths columns rows).length = columns.length := by
  have hkeep : ∀ widths : List Nat, (rows.foldl widen widths).length = widths.length := by
    induction rows with
    | nil => exact fun _ => rfl
    | cons row rows ih => exact fun widths => (ih _).trans (length_widen widths row)
  rw [Table.widths, hkeep, List.length_map]

/-! ## Lines that are set in columns -/

/-- Where a column begins, when three characters stand between columns. -/
def start : List Nat → Nat → Nat
  | width :: widths, column + 1 => width + 3 + start widths column
  | _, _ => 0

/-- A line that is set in columns: its fields with gaps between them, each field at the beginning of
its column and the gap behind it. -/
structure SetIn (widths : List Nat) (gap : List Char) (fields : List (List Char))
    (line : List Char) : Prop where
  widths_eq : fields.map List.length = widths
  line_eq : line = gap.intercalate fields
  length_eq : line.length = widths.sum + 3 * (widths.length - 1)
  field_at : ∀ column field, fields[column]? = some field →
    (line.drop (start widths column)).take field.length = field
  gap_at : ∀ column field, fields[column]? = some field → column + 1 < widths.length →
    (line.drop (start widths column + field.length)).take 3 = gap

variable {gap : List Char} {fields : List (List Char)}

theorem joined_eq_intercalate (gap : List Char) (fields : List (List Char)) :
    joined gap fields = gap.intercalate fields := by
  induction fields with
  | nil => rfl
  | cons field fields ih =>
    cases fields with
    | nil => simp [joined]
    | cons next rest =>
      rw [joined, ih, List.intercalate_cons_cons]
      exact List.cons_ne_nil _ _

theorem length_intercalate (hgap : gap.length = 3) (fields : List (List Char)) :
    (gap.intercalate fields).length =
      (fields.map List.length).sum + 3 * (fields.length - 1) := by
  induction fields with
  | nil => rfl
  | cons field fields ih =>
    cases fields with
    | nil => simp
    | cons next rest =>
      rw [List.intercalate_cons_cons, List.length_append, List.length_append, ih, hgap]
      simp only [List.map_cons, List.sum_cons, List.length_cons]
      omega

/-- The fields before a column take up the line as far as the column begins. -/
theorem intercalate_drop (hgap : gap.length = 3) {column : Nat} (h : column < fields.length) :
    (gap.intercalate fields).drop (start (fields.map List.length) column) =
      gap.intercalate (fields.drop column) := by
  induction column generalizing fields with
  | zero => cases fields <;> rfl
  | succ column ih =>
    cases fields with
    | nil => simp at h
    | cons field fields =>
      cases fields with
      | nil => simp at h
      | cons next rest =>
        have hlead : (field ++ gap).length = field.length + 3 := by
          rw [List.length_append, hgap]
        rw [List.intercalate_cons_cons, List.map_cons, start, ← List.drop_drop,
          List.drop_left' hlead, List.drop_succ_cons]
        exact ih (Nat.lt_of_succ_lt_succ h)

/-- Where the fields of a line stand. -/
theorem setIn_intercalate (hgap : gap.length = 3) (hfields : fields.map List.length = widths) :
    SetIn widths gap fields (gap.intercalate fields) := by
  have hcount : widths.length = fields.length := by rw [← hfields, List.length_map]
  -- behind the place where a column begins stands its field, and what comes after it
  have hrest : ∀ column field, fields[column]? = some field →
      (gap.intercalate fields).drop (start widths column) =
        gap.intercalate (field :: fields.drop (column + 1)) := by
    intro column field hfield
    obtain ⟨hlt, hget⟩ := List.getElem?_eq_some_iff.1 hfield
    rw [← hfields, intercalate_drop hgap hlt, List.drop_eq_getElem_cons hlt, hget]
  refine ⟨hfields, rfl, ?_, ?_, ?_⟩
  · rw [length_intercalate hgap, hfields, hcount]
  · intro column field hfield
    rw [hrest column field hfield]
    cases fields.drop (column + 1) with
    | nil => simp
    | cons next rest =>
      rw [List.intercalate_cons_cons, List.append_assoc]
      exact List.take_left' rfl
  · intro column field hfield hlast
    rw [← List.drop_drop, hrest column field hfield]
    cases hlater : fields.drop (column + 1) with
    | nil =>
      rw [List.drop_eq_nil_iff] at hlater
      omega
    | cons next rest =>
      rw [List.intercalate_cons_cons, List.append_assoc, List.drop_left' rfl]
      exact List.take_left' hgap

/-! ## The lines of a grid -/

/-- A line that shows the cells of a row: each at the beginning of its column with spaces behind it,
but without the white space at the end of the line. -/
def ShowsCells (widths : List Nat) (cells : List String) (line : List Char) : Prop :=
  ∃ fields blanks, SetIn widths [' ', '|', ' '] fields (line ++ blanks) ∧
    (∀ column field, fields[column]? = some field →
      ∃ spaces, field = (cellAt cells column).toList ++ List.replicate spaces ' ') ∧
    (∀ c ∈ blanks, Text.isBlank c = true) ∧ ∀ c, line.getLast? = some c → ¬Text.isBlank c = true

theorem length_filled {cell : String} {width : Nat} (h : cell.length ≤ width) :
    (filled cell width).length = width := by
  rw [filled, List.length_append, List.length_replicate, String.length_toList]
  omega

/-- The fields of a line: each cell with spaces behind it. -/
def fieldsOf (widths : List Nat) (cells : List String) : List (List Char) :=
  widths.zipIdx.map fun (width, column) => filled (cellAt cells column) width

/-- The text of a line at full width. -/
def textOf (widths : List Nat) (cells : List String) : List Char :=
  [' ', '|', ' '].intercalate (fieldsOf widths cells)

theorem getElem?_fieldsOf (widths : List Nat) (cells : List String) (column : Nat) :
    (fieldsOf widths cells)[column]? =
      widths[column]?.map (filled (cellAt cells column)) := by
  rw [fieldsOf, List.getElem?_map, List.getElem?_zipIdx, Option.map_map]
  cases widths[column]? with
  | none => rfl
  | some width => simp

/-- The text of a line without the white space at its end shows the cells of every row that the
columns are wide enough for. -/
theorem showsCells_textOf {cells : List String}
    (h : ∀ column width, widths[column]? = some width → (cellAt cells column).length ≤ width) :
    ShowsCells widths cells (Text.trimEndChars (textOf widths cells)) := by
  obtain ⟨⟨blanks, hfull, hblank⟩, hlast⟩ :=
    Text.rdropWhile_eq_iff.1 (Text.trimEndChars_eq (textOf widths cells)).symm
  have hfields : (fieldsOf widths cells).map List.length = widths := by
    refine List.ext_getElem? fun column => ?_
    rw [List.getElem?_map, getElem?_fieldsOf, Option.map_map]
    cases hwidth : widths[column]? with
    | none => rfl
    | some width => exact congrArg some (length_filled (h column width hwidth))
  refine ⟨fieldsOf widths cells, blanks, ?_, ?_, hblank, hlast⟩
  · rw [← hfull, textOf]
    exact setIn_intercalate rfl hfields
  · intro column field hfield
    rw [getElem?_fieldsOf] at hfield
    obtain ⟨width, _, rfl⟩ := Option.map_eq_some_iff.1 hfield
    exact ⟨width - (cellAt cells column).length, rfl⟩

theorem setIn_rule (widths : List Nat) :
    SetIn widths ['-', '+', '-'] (widths.map (List.replicate · '-')) (rule widths) := by
  rw [rule, joined_eq_intercalate]
  refine setIn_intercalate rfl ?_
  rw [List.map_map]
  refine (List.map_congr_left fun width _ => ?_).trans (List.map_id widths)
  exact List.length_replicate

/-! ## Formatting -/

/-- No column is too wide for formatting. -/
def Narrow (widths : List Nat) : Prop := ∀ width ∈ widths, width ≤ greatestWidth

instance (widths : List Nat) : Decidable (Narrow widths) :=
  inferInstanceAs (Decidable (∀ width ∈ widths, width ≤ greatestWidth))

theorem mapM_ite {α β : Type} {p : α → Prop} [DecidablePred p] (f : α → β) (items : List α) :
    items.mapM (fun a => if p a then some (f a) else none) =
      if ∀ a ∈ items, p a then some (items.map f) else none := by
  induction items with
  | nil => simp
  | cons a items ih =>
    rw [List.mapM_cons, ih]
    by_cases ha : p a
    · by_cases hrest : ∀ a ∈ items, p a
      · rw [if_pos ha, if_pos hrest, if_pos (List.forall_mem_cons.2 ⟨ha, hrest⟩)]
        rfl
      · rw [if_pos ha, if_neg hrest, if_neg fun h => hrest (List.forall_mem_cons.1 h).2]
        rfl
    · rw [if_neg ha, if_neg fun h => ha (List.forall_mem_cons.1 h).1]
      rfl

theorem fullLine_eq (widths : List Nat) (cells : List String) :
    fullLine widths cells = if Narrow widths then some (textOf widths cells) else none := by
  have hnarrow : (∀ field ∈ widths.zipIdx, field.1 ≤ greatestWidth) ↔ Narrow widths := by
    constructor
    · intro h width hwidth
      obtain ⟨column, hcolumn⟩ := List.getElem?_of_mem hwidth
      exact h (width, column) (List.mem_zipIdx_iff_getElem?.2 hcolumn)
    · intro h field hfield
      exact h _ (List.mem_of_getElem? (List.mem_zipIdx_iff_getElem?.1 hfield))
  have hfields := mapM_ite (p := fun field : Nat × Nat => field.1 ≤ greatestWidth)
    (fun field => filled (cellAt cells field.2) field.1) widths.zipIdx
  unfold fullLine padded
  rw [hfields, if_congr hnarrow rfl rfl]
  by_cases h : Narrow widths
  · rw [if_pos h, if_pos h]
    exact congrArg some (joined_eq_intercalate _ _)
  · rw [if_neg h, if_neg h]
    rfl

theorem line_eq (widths : List Nat) (cells : List String) :
    line widths cells =
      if Narrow widths then some (Text.trimEndChars (textOf widths cells)) else none := by
  rw [line, fullLine_eq]
  split <;> rfl

/-- A grid has lines exactly if no column is too wide. -/
theorem gridLines_eq (columns : List String) (rows : List (List String)) :
    gridLines columns rows =
      if Narrow (Table.widths columns rows) then
        some (Text.trimEndChars (textOf (Table.widths columns rows) columns) ::
          rule (Table.widths columns rows) ::
          rows.map fun row => Text.trimEndChars (textOf (Table.widths columns rows) row))
      else none := by
  have hlines : rows.mapM (line (Table.widths columns rows)) =
      if ∀ row ∈ rows, Narrow (Table.widths columns rows) then
        some (rows.map fun row => Text.trimEndChars (textOf (Table.widths columns rows) row))
      else none := by
    rw [← mapM_ite]
    exact congrArg (rows.mapM ·) (funext fun row => line_eq _ row)
  rw [gridLines, line_eq, hlines]
  by_cases h : Narrow (Table.widths columns rows)
  · rw [if_pos h, if_pos fun _ _ => h, if_pos h]
    rfl
  · rw [if_neg h, if_neg h]
    rfl

theorem LineMeant.length_le {row : Row} {cells : List String} (h : LineMeant columns row cells)
    (hcolumns : columns ≠ []) : cells.length ≤ columns.length := by
  have hpos : 0 < columns.length := List.length_pos_iff.2 hcolumns
  cases h with
  | record h => exact Nat.le_of_eq h.length_eq.symm
  | label hrow h => exact hpos
  | null => exact hpos

/-- A grid has a column, and no row has more cells than there are columns. -/
theorem grid_of_ofReply {reply : Reply} (h : ofReply reply = .ok (.grid columns rows)) :
    columns ≠ [] ∧ ∀ row ∈ rows, row.length ≤ columns.length := by
  have hmeant := meant_iff.2 h
  cases hmeant with
  | @lines members rest _ hfirst hlines =>
    have hcolumns : members.map Prod.fst ≠ [] := by simpa using hfirst
    obtain rfl := forall₂_lineMeant_iff.1 hlines
    refine ⟨hcolumns, fun row hrow => ?_⟩
    obtain ⟨source, _, hrow⟩ := List.mem_map.1 hrow
    exact (lineMeant_iff.2 hrow).length_le hcolumns
  | @databases databases hsome =>
    refine ⟨by simp, fun row hrow => ?_⟩
    obtain ⟨d, _, rfl⟩ := List.mem_map.1 hrow
    exact Nat.le_refl _

end Table

/-- Every column of a table is as wide as its longest cell. If none is too wide for formatting, the
table in plain text has a line for its header, a rule, and a line for each row. A line shows its
cells one behind the other, each filled with spaces to the width of its column and with a bar between
them, and only white space is taken off its end. The rule crosses the bars and runs under everything
else. If a column is too wide, there is no text. -/
theorem plain_tables_line_up {reply : Reply} {columns : List String} {rows : List (List String)}
    (h : Table.ofReply reply = .ok (.grid columns rows)) :
    columns ≠ [] ∧ (∀ row ∈ rows, row.length ≤ columns.length) ∧
      ∃ widths : List Nat, widths.length = columns.length ∧
        (∀ column width, widths[column]? = some width →
          IsGreatest (Table.lengths (columns :: rows) column) width) ∧
        ((∀ width ∈ widths, width ≤ 65535) →
          ∃ (header rule : List Char) (lines : List (List Char)),
            Renderer.text.render reply =
              some (.text (String.ofList (['\n'].intercalate (header :: rule :: lines)))) ∧
            Table.ShowsCells widths columns header ∧
            Table.SetIn widths ['-', '+', '-'] (widths.map (List.replicate · '-')) rule ∧
            List.Forall₂ (Table.ShowsCells widths) rows lines) ∧
        ((∃ width ∈ widths, 65535 < width) → Renderer.text.render reply = none) := by
  obtain ⟨hcolumns, hrows⟩ := Table.grid_of_ofReply h
  have hfits := Table.isGreatest_widths columns rows
  have hshows : ∀ line ∈ columns :: rows, Table.ShowsCells (Table.widths columns rows) line
      (Text.trimEndChars (Table.textOf (Table.widths columns rows) line)) := by
    intro line hline
    apply Table.showsCells_textOf
    intro column width hwidth
    exact (hfits column width hwidth).2 ⟨line, hline, rfl⟩
  have hrender : Renderer.text.render reply = (Table.gridLines columns rows).map fun lines =>
      .text (String.ofList (['\n'].intercalate lines)) := by
    simp only [Renderer.render, Renderer.table, h, Table.plain, ← Table.joined_eq_intercalate]
    cases Table.gridLines columns rows <;> rfl
  refine ⟨hcolumns, hrows, Table.widths columns rows, Table.length_widths columns rows, hfits,
    fun hnarrow => ?_, fun hwide => ?_⟩
  · refine ⟨_, _, rows.map fun row => Text.trimEndChars
      (Table.textOf (Table.widths columns rows) row), ?_, hshows columns List.mem_cons_self,
      Table.setIn_rule _, ?_⟩
    · have hfitting : Table.Narrow (Table.widths columns rows) := hnarrow
      rw [hrender, Table.gridLines_eq, if_pos hfitting]
      rfl
    · rw [List.forall₂_map_right_iff, List.forall₂_same]
      exact fun row hrow => hshows row (List.mem_cons_of_mem _ hrow)
  · obtain ⟨width, hwidth, hlarge⟩ := hwide
    have hbroad : ¬Table.Narrow (Table.widths columns rows) := fun hnarrow =>
      absurd (hnarrow width hwidth) (Nat.not_le_of_lt hlarge)
    rw [hrender, Table.gridLines_eq, if_neg hbroad]
    rfl

/-- Two records, the first with white space behind its last cell, the second without that cell. -/
theorem plain_tables_line_up_ragged :
    Table.ofReply (.tabular [.record [("name", .text "äpfel"), ("note", .text "ripe\u00a0")],
        .record [("name", .text "fig")]]) =
      .ok (.grid ["name", "note"] [["äpfel", "ripe\u00a0"], ["fig", ""]]) ∧
    ∃ (widths : List Nat) (header rule : List Char) (lines : List (List Char)),
      (∀ width ∈ widths, width ≤ 65535) ∧
      Renderer.text.render (.tabular
          [.record [("name", .text "äpfel"), ("note", .text "ripe\u00a0")],
            .record [("name", .text "fig")]]) =
        some (.text (String.ofList (['\n'].intercalate (header :: rule :: lines)))) ∧
      List.Forall₂ (Table.ShowsCells widths) [["äpfel", "ripe\u00a0"], ["fig", ""]] lines := by
  have h : Table.ofReply (.tabular
      [.record [("name", .text "äpfel"), ("note", .text "ripe\u00a0")],
        .record [("name", .text "fig")]]) =
      .ok (.grid ["name", "note"] [["äpfel", "ripe\u00a0"], ["fig", ""]]) := by
    rfl
  obtain ⟨_, _, widths, hlength, hgreatest, hset, _⟩ := plain_tables_line_up h
  have hnarrow : ∀ width ∈ widths, width ≤ 65535 := by
    intro width hwidth
    obtain ⟨column, hcolumn⟩ := List.getElem?_of_mem hwidth
    have hlt : column < 2 := Nat.lt_of_lt_of_eq (List.getElem?_eq_some_iff.1 hcolumn).1 hlength
    obtain ⟨line, hline, rfl⟩ := (hgreatest column width hcolumn).1
    have hcells : ∀ line ∈ [["name", "note"], ["äpfel", "ripe\u00a0"], ["fig", ""]],
        ∀ column < 2, (Table.cellAt line column).length ≤ 65535 := by decide
    exact hcells line hline column hlt
  obtain ⟨header, rule, lines, htext, _, _, hlines⟩ := hset hnarrow
  exact ⟨h, widths, header, rule, lines, hnarrow, htext, hlines⟩

example : Renderer.text.render (.tabular
    [.record [("name", .text "äpfel"), ("note", .text "ripe\u00a0")],
      .record [("name", .text "fig")]]) =
    some (.text "name  | note\n------+------\näpfel | ripe\nfig   |") := by
  decide +kernel

/-- A record with a note. -/
def Reply.noted (note : String) : Reply :=
  .tabular [.record [("note", .text note)]]

/-- There is no text for a note that is too long. -/
theorem Renderer.render_noted {note : String} (h : 65535 < note.length) :
    Renderer.text.render (.noted note) = none := by
  have htable : Table.ofReply (.noted note) = .ok (.grid ["note"] [[note]]) := rfl
  have hbroad : ¬Table.Narrow (Table.widths ["note"] [[note]]) := by
    intro hnarrow
    have hwidth := hnarrow (max "note".length note.length) List.mem_cons_self
    exact absurd (Nat.le_trans (Nat.le_max_right _ _) hwidth) (Nat.not_le_of_lt h)
  simp only [Renderer.render, Renderer.table, htable, Table.plain, Table.gridLines_eq,
    if_neg hbroad]
  rfl

/-- A note of 65536 characters is too long by one: there are no lines. -/
theorem wide_table_unset :
    Table.ofReply (.noted (String.ofList (List.replicate 65536 'a'))) =
      .ok (.grid ["note"] [[String.ofList (List.replicate 65536 'a')]]) ∧
    Renderer.text.render (.noted (String.ofList (List.replicate 65536 'a'))) = none := by
  refine ⟨rfl, Renderer.render_noted ?_⟩
  rw [String.length_ofList, List.length_replicate]
  decide

end QueryConsole
