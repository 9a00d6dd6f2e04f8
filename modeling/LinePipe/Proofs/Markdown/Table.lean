import LinePipe.Markdown.Table
import LinePipe.Proofs.Buffer.Basic
import LinePipe.Proofs.Text.Rebreak
import LinePipe.Proofs.Text.Words
import Mathlib.Data.List.Forall2

/-!
# What a Markdown table shows

Every line of a table has its columns at the same positions, and the cells can be cut out of the
lines again: only spaces are put behind a cell, and no column is wider than its widest cell.

## Main definitions

- `MarkdownTable.Spans`: widths that are those of the widest cells
- `MarkdownTable.Column`: a stretch of positions that is the same in every line
- `MarkdownTable.Aligned`: lines that show headers and rows in columns
- `MarkdownTable.DrawsAligned`: when there is a table, and what its lines show

## Main statements

- `MarkdownTable.spans_widths`: the widths of a table are those of its widest cells
- `MarkdownTable.map_cut_columnsFrom`: parts of a line are cut out of it at their positions
- `MarkdownTable.drawsAligned`: a table shows its headers and rows
-/

namespace LinePipe.MarkdownTable

/-! ## Widths -/

/-- There are as many cells as widths, and no cell is wider than its width. -/
def Fits (ws : List Nat) (cells : List Text) : Prop :=
  List.Forall₂ (fun (w : Nat) (cell : Text) => cell.length ≤ w) ws cells

/-- Widths that are those of the widest cells: all cells fit, and each width is that of a cell. -/
structure Spans (ws : List Nat) (table : List (List Text)) : Prop where
  fits : ∀ cells ∈ table, Fits ws cells
  tight : ∀ (i w : Nat), ws[i]? = some w →
    ∃ cells ∈ table, ∃ cell : Text, cells[i]? = some cell ∧ cell.length = w

/-- Widths made great enough for a row as well. -/
def widen (ws : List Nat) (row : List Text) : List Nat :=
  List.zipWith max ws (row.map List.length)

variable {ws : List Nat} {row cells : List Text}

theorem spans_map_length (cells : List Text) : Spans (cells.map List.length) [cells] where
  fits := by
    rw [List.forall_mem_singleton, Fits, List.forall₂_map_left_iff]
    exact List.forall₂_same.mpr fun cell _ => Nat.le_refl cell.length
  tight i w hw := by
    rw [List.getElem?_map] at hw
    exact ⟨cells, List.mem_singleton_self cells, Option.map_eq_some_iff.mp hw⟩

theorem length_widen (hrow : row.length = ws.length) : (widen ws row).length = ws.length := by
  rw [widen, List.length_zipWith, List.length_map, hrow, Nat.min_self]

/-- What fits fits into greater widths. -/
theorem Fits.widen (h : Fits ws cells) (hrow : row.length = ws.length) :
    Fits (widen ws row) cells := by
  induction h generalizing row with
  | nil => exact .nil
  | cons hcell _ ih =>
    cases row with
    | nil => cases hrow
    | cons cell row =>
      exact .cons (Nat.le_trans hcell (Nat.le_max_left _ _)) (ih (Nat.succ.inj hrow))

theorem fits_widen (hrow : row.length = ws.length) : Fits (widen ws row) row := by
  induction ws generalizing row with
  | nil =>
    rw [List.eq_nil_of_length_eq_zero hrow]
    exact .nil
  | cons w ws ih =>
    cases row with
    | nil => cases hrow
    | cons cell row => exact .cons (Nat.le_max_right w cell.length) (ih (Nat.succ.inj hrow))

/-- Each width is the one from before or that of the cell of the row. -/
theorem of_getElem?_widen {i w : Nat} (h : (widen ws row)[i]? = some w) :
    ws[i]? = some w ∨ ∃ cell, row[i]? = some cell ∧ cell.length = w := by
  rw [widen, List.getElem?_zipWith_eq_some] at h
  obtain ⟨v, n, hv, hn, rfl⟩ := h
  rw [List.getElem?_map, Option.map_eq_some_iff] at hn
  obtain ⟨cell, hcell, rfl⟩ := hn
  obtain hle | hle := Nat.le_total cell.length v
  · exact .inl (by rw [Nat.max_eq_left hle, hv])
  · exact .inr ⟨cell, hcell, (Nat.max_eq_right hle).symm⟩

/-- Widths that span a table span it with one more row once they are widened for the row. -/
theorem Spans.widen {table : List (List Text)} (h : Spans ws table)
    (hrow : row.length = ws.length) : Spans (widen ws row) (row :: table) where
  fits := List.forall_mem_cons.mpr
    ⟨fits_widen hrow, fun cells hcells => (h.fits cells hcells).widen hrow⟩
  tight i w hw := by
    obtain hbefore | hcell := of_getElem?_widen hw
    · obtain ⟨cells, hcells, hcell⟩ := h.tight i w hbefore
      exact ⟨cells, List.mem_cons_of_mem row hcells, hcell⟩
    · exact ⟨row, List.mem_cons_self, hcell⟩

theorem Spans.foldl_widen {table rows : List (List Text)} (h : Spans ws table)
    (hrows : ∀ row ∈ rows, row.length = ws.length) :
    Spans (rows.foldl MarkdownTable.widen ws) (rows.reverse ++ table) := by
  induction rows generalizing ws table with
  | nil => exact h
  | cons row rest ih =>
    obtain ⟨hrow, hrest⟩ := List.forall_mem_cons.mp hrows
    rw [List.reverse_cons, List.append_assoc]
    exact ih (h.widen hrow) fun other hother => (hrest other hother).trans (length_widen hrow).symm

/-- The widths of a table are those of its widest cells. -/
theorem spans_widths {headers : List Text} {rows : List (List Text)}
    (hrows : ∀ row ∈ rows, row.length = headers.length) :
    Spans (widths headers rows) (headers :: rows) := by
  have hspans : Spans (widths headers rows) (rows.reverse ++ [headers]) :=
    (spans_map_length headers).foldl_widen fun row hrow => by
      rw [List.length_map, hrows row hrow]
  have hmem (cells : List Text) : cells ∈ rows.reverse ++ [headers] ↔ cells ∈ headers :: rows := by
    rw [List.mem_append, List.mem_reverse, List.mem_singleton, List.mem_cons, or_comm]
  exact
    { fits := fun cells hcells => hspans.fits cells ((hmem cells).mpr hcells)
      tight := fun i w hw => by
        obtain ⟨cells, hcells, hcell⟩ := hspans.tight i w hw
        exact ⟨cells, (hmem cells).mp hcells, hcell⟩ }

/-! ## Positions -/

/-- A column: the position at which it starts in each line, and how many characters wide it is. -/
structure Column where
  start : Nat
  width : Nat

/-- What stands in a column of a line. -/
def Column.cut (column : Column) (line : Text) : Text :=
  (line.drop column.start).take column.width

/-- What stands between two columns. -/
def border : Text := [' ', '|', ' ']

/-- Columns of given widths from a position on, with a border between neighbours. -/
def columnsFrom : Nat → List Nat → List Column
  | _, [] => []
  | start, w :: ws => ⟨start, w⟩ :: columnsFrom (start + w + border.length) ws

theorem length_columnsFrom (start : Nat) (ws : List Nat) :
    (columnsFrom start ws).length = ws.length := by
  induction ws generalizing start with
  | nil => rfl
  | cons w ws ih => rw [columnsFrom, List.length_cons, ih, List.length_cons]

theorem map_width_columnsFrom (start : Nat) (ws : List Nat) :
    (columnsFrom start ws).map Column.width = ws := by
  induction ws generalizing start with
  | nil => rfl
  | cons w ws ih => rw [columnsFrom, List.map_cons, ih]

theorem le_start_of_mem_columnsFrom {start : Nat} {column : Column}
    (h : column ∈ columnsFrom start ws) : start ≤ column.start := by
  induction ws generalizing start with
  | nil => cases h
  | cons w ws ih =>
    obtain rfl | hlater := List.mem_cons.mp h
    · exact Nat.le_refl start
    · have hstart := ih hlater
      omega

/-- Each column ends before the next one starts. -/
theorem pairwise_columnsFrom (start : Nat) (ws : List Nat) :
    (columnsFrom start ws).Pairwise fun c d => c.start + c.width < d.start := by
  induction ws generalizing start with
  | nil => exact .nil
  | cons w ws ih =>
    refine .cons (fun later hlater => ?_) (ih _)
    have hstart := le_start_of_mem_columnsFrom hlater
    exact Nat.lt_of_lt_of_le (Nat.lt_add_of_pos_right (by decide)) hstart

theorem cut_append (front part rest : Text) :
    Column.cut ⟨front.length, part.length⟩ (front ++ part ++ rest) = part := by
  rw [Column.cut, List.append_assoc, List.drop_left, List.take_left]

/-- Parts of a line with borders between them are cut out of it at their positions, whatever stands
before and behind them. -/
theorem map_cut_columnsFrom (front back : Text) (parts : List Text) :
    (columnsFrom front.length (parts.map List.length)).map
        (·.cut (front ++ Text.joinWith border parts ++ back)) = parts := by
  induction parts generalizing front with
  | nil => rfl
  | cons part parts ih =>
    cases parts with
    | nil => exact congrArg (fun cell => [cell]) (cut_append front part back)
    | cons next parts =>
      -- The other parts stand behind a longer front, which ends in a border.
      have hline : front ++ Text.joinWith border (part :: next :: parts) ++ back =
          front ++ part ++ border ++ Text.joinWith border (next :: parts) ++ back := by
        simp only [Text.joinWith, List.append_assoc]
      have hlength : front.length + part.length + border.length =
          (front ++ part ++ border).length := by
        rw [List.length_append, List.length_append]
      rw [hline, List.map_cons, columnsFrom, List.map_cons, hlength, ih]
      have hfirst := cut_append front part
        (border ++ (Text.joinWith border (next :: parts) ++ back))
      simp only [← List.append_assoc] at hfirst
      rw [hfirst]

/-- How long joined texts are depends on their lengths alone. -/
theorem length_joinWith_congr (sep : Text) {ts us : List Text}
    (h : ts.map List.length = us.map List.length) :
    (Text.joinWith sep ts).length = (Text.joinWith sep us).length := by
  induction ts generalizing us with
  | nil =>
    rw [List.map_nil, eq_comm, List.map_eq_nil_iff] at h
    rw [h]
  | cons t ts ih =>
    cases us with
    | nil => cases h
    | cons u us =>
      obtain ⟨hfirst, hrest⟩ := List.cons.inj h
      by_cases hts : ts = []
      · subst hts
        rw [List.map_nil, eq_comm, List.map_eq_nil_iff] at hrest
        rw [hrest]
        exact hfirst
      · have hus : us ≠ [] := by
          rintro rfl
          exact hts (List.map_eq_nil_iff.mp hrest)
        rw [Text.joinWith_cons sep t hts, Text.joinWith_cons sep u hus]
        simp only [List.length_append, hfirst, ih hrest]

/-! ## Lines -/

/-- The columns of a table, behind the bar and the space with which each line starts. -/
def columns (headers : List Text) (rows : List (List Text)) : List Column :=
  columnsFrom 2 (widths headers rows)

theorem map_length_padded (h : Fits ws cells) : (padded ws cells).map List.length = ws := by
  induction h with
  | nil => rfl
  | cons hcell _ ih =>
    rw [padded, List.zipWith_cons_cons, List.map_cons, Text.padRight, List.length_append,
      List.length_replicate, Nat.add_sub_cancel' hcell]
    exact congrArg _ ih

/-- The dashes below the headers, column by column. -/
def dashes (ws : List Nat) : List Text :=
  ws.map fun w => List.replicate w '-'

theorem map_length_dashes (ws : List Nat) : (dashes ws).map List.length = ws := by
  simp [dashes, Function.comp_def]

theorem map_cut_line {parts : List Text} (h : parts.map List.length = ws) :
    (columnsFrom 2 ws).map (·.cut (line parts)) = parts := by
  subst h
  exact map_cut_columnsFrom ['|', ' '] [' ', '|'] parts

/-- Lines with parts of the same widths are equally long. -/
theorem length_line_congr {parts parts' : List Text}
    (h : parts.map List.length = parts'.map List.length) :
    (line parts).length = (line parts').length := by
  rw [line, line, List.length_append, List.length_append, List.length_append, List.length_append,
    length_joinWith_congr _ h]

/-- A line shows cells in columns: each cell stands at the left of its column, with nothing but
spaces behind it. -/
def Shows (columns : List Column) (line : Text) (cells : List Text) : Prop :=
  List.Forall₂ (fun (column : Column) (cell : Text) => cell.length ≤ column.width ∧
    column.cut line = cell ++ List.replicate (column.width - cell.length) ' ') columns cells

theorem shows_line (h : Fits ws cells) :
    Shows (columnsFrom 2 ws) (line (padded ws cells)) cells := by
  have hcut := map_cut_line (map_length_padded h)
  generalize line (padded ws cells) = line at hcut
  generalize 2 = start at hcut ⊢
  induction h generalizing start with
  | nil => exact .nil
  | cons hcell _ ih =>
    obtain ⟨hfirst, hrest⟩ := List.cons.inj hcut
    exact .cons ⟨hcell, hfirst⟩ (ih _ hrest)

theorem cut_line_dashes (ws : List Nat) : ∀ column ∈ columnsFrom 2 ws,
    column.cut (line (dashes ws)) = List.replicate column.width '-' := by
  have hdashes : dashes ws =
      (columnsFrom 2 ws).map fun column => List.replicate column.width '-' := by
    conv_lhs => rw [← map_width_columnsFrom 2 ws, dashes, List.map_map]
    rfl
  exact List.map_inj_left.mp ((map_cut_line (map_length_dashes ws)).trans hdashes)

/-- Lines that show headers and rows in columns. Columns stand apart, and each is as wide as its
widest cell. -/
structure Aligned (headers : List Text) (rows : List (List Text)) (lines : List Text)
    (columns : List Column) : Prop where
  count : lines.length = rows.length + 2
  even : ∀ line ∈ lines, ∀ line' ∈ lines, line.length = line'.length
  apart : columns.Pairwise fun c d => c.start + c.width < d.start
  tight : ∀ (i : Nat) (column : Column), columns[i]? = some column →
    ∃ cells ∈ headers :: rows, ∃ cell : Text, cells[i]? = some cell ∧ cell.length = column.width
  shows : ∃ head rule body, lines = head :: rule :: body ∧ Shows columns head headers ∧
    (∀ column ∈ columns, column.cut rule = List.replicate column.width '-') ∧
      List.Forall₂ (Shows columns) body rows

theorem aligned_lines {headers : List Text} {rows : List (List Text)}
    (hrows : ∀ row ∈ rows, row.length = headers.length) :
    Aligned headers rows (lines headers rows) (columns headers rows) := by
  have hspans := spans_widths hrows
  have hfits (row : List Text) (hrow : row ∈ rows) : Fits (widths headers rows) row :=
    hspans.fits row (List.mem_cons_of_mem headers hrow)
  have hheaders : Fits (widths headers rows) headers := hspans.fits headers List.mem_cons_self
  -- Each line is made of parts that have the widths of the columns.
  have hparts : ∀ l ∈ lines headers rows, ∃ parts, l = line parts ∧
      parts.map List.length = widths headers rows := by
    intro l hl
    obtain rfl | hl := List.mem_cons.mp hl
    · exact ⟨_, rfl, map_length_padded hheaders⟩
    · obtain rfl | hl := List.mem_cons.mp hl
      · exact ⟨_, rfl, map_length_dashes _⟩
      · obtain ⟨row, hrow, rfl⟩ := List.mem_map.mp hl
        exact ⟨_, rfl, map_length_padded (hfits row hrow)⟩
  exact
    { count := by rw [lines, List.length_cons, List.length_cons, List.length_map]
      even := fun l hl l' hl' => by
        obtain ⟨parts, rfl, hlength⟩ := hparts l hl
        obtain ⟨parts', rfl, hlength'⟩ := hparts l' hl'
        exact length_line_congr (hlength.trans hlength'.symm)
      apart := pairwise_columnsFrom 2 _
      tight := fun i column hcolumn => by
        refine hspans.tight i column.width ?_
        rw [← map_width_columnsFrom 2 (widths headers rows), List.getElem?_map]
        exact Option.map_eq_some_iff.mpr ⟨column, hcolumn, rfl⟩
      shows := by
        refine ⟨_, _, _, rfl, shows_line hheaders, cut_line_dashes _, ?_⟩
        rw [List.forall₂_map_left_iff]
        exact List.forall₂_same.mpr fun row hrow => shows_line (hfits row hrow) }

/-! ## Texts -/

theorem feed_not_mem_line {parts : List Text} (h : ∀ part ∈ parts, '\n' ∉ part) :
    '\n' ∉ line parts := by
  have hflatten : parts.flatten.count '\n' = 0 := by
    rw [List.count_eq_zero, List.mem_flatten]
    rintro ⟨part, hpart, hmem⟩
    exact h part hpart hmem
  rw [← List.count_eq_zero, line, List.count_append, List.count_append, Text.count_joinWith,
    hflatten]
  rfl

/-- Only spaces are put behind a cell. -/
theorem feed_not_mem_of_mem_padded (ws : List Nat) (h : ∀ cell ∈ cells, '\n' ∉ cell) :
    ∀ part ∈ padded ws cells, '\n' ∉ part := by
  intro part hpart
  rw [padded, List.mem_iff_getElem?] at hpart
  obtain ⟨i, hi⟩ := hpart
  obtain ⟨w, cell, -, hcell, rfl⟩ := List.getElem?_zipWith_eq_some.mp hi
  rw [Text.padRight, List.mem_append, not_or]
  refine ⟨h cell (List.mem_of_getElem? hcell), fun hspace => ?_⟩
  exact absurd (List.eq_of_mem_replicate hspace) (by decide)

theorem feed_not_mem_of_mem_dashes (ws : List Nat) : ∀ part ∈ dashes ws, '\n' ∉ part := by
  intro part hpart hmem
  obtain ⟨w, -, rfl⟩ := List.mem_map.mp hpart
  exact absurd (List.eq_of_mem_replicate hmem) (by decide)

theorem feed_not_mem_of_mem_lines {headers : List Text} {rows : List (List Text)}
    (h : ∀ cells ∈ headers :: rows, ∀ cell ∈ cells, '\n' ∉ cell) :
    ∀ l ∈ lines headers rows, '\n' ∉ l := by
  have hline (cells : List Text) (hcells : cells ∈ headers :: rows) :
      '\n' ∉ line (padded (widths headers rows) cells) :=
    feed_not_mem_line (feed_not_mem_of_mem_padded _ (h cells hcells))
  intro l hl
  obtain rfl | hl := List.mem_cons.mp hl
  · exact hline headers List.mem_cons_self
  · obtain rfl | hl := List.mem_cons.mp hl
    · exact feed_not_mem_line (feed_not_mem_of_mem_dashes _)
    · obtain ⟨row, hrow, rfl⟩ := List.mem_map.mp hl
      exact hline row (List.mem_cons_of_mem headers hrow)

/-- Lines that are each ended by a line feed are the pieces of a text with nothing behind the last
line feed. -/
theorem splitOn_flatMap_feed {ls : List Text} (h : ∀ l ∈ ls, '\n' ∉ l) :
    Text.splitOn '\n' (ls.flatMap (· ++ ['\n'])) = ls ++ [[]] := by
  refine Text.splitOn_eq_iff.mpr ⟨by simp, ?_, ?_⟩
  · exact List.forall_mem_append.mpr ⟨h, List.forall_mem_singleton.mpr List.not_mem_nil⟩
  · clear h
    induction ls with
    | nil => rfl
    | cons l ls ih =>
      rw [List.cons_append, Text.joinWith_cons _ _ (by simp), ih, List.flatMap_cons]

/-- There is no table if a row has more or fewer cells than there are headers. Otherwise there is a
text of lines, each ended by a line feed, that show the headers and the rows in columns. -/
structure DrawsAligned (headers : List Text) (rows : List (List Text)) : Prop where
  refuses : render headers rows = .error .raggedRow ↔ ∃ row ∈ rows, row.length ≠ headers.length
  draws : (∀ row ∈ rows, row.length = headers.length) →
    ∃ (text : Text) (lines : List Text) (columns : List Column),
      render headers rows = .ok text ∧ Text.splitOn '\n' text = lines ++ [[]] ∧
        columns.length = headers.length ∧
        Aligned headers rows lines columns

/-- A table shows its headers and rows: each cell can be cut out of its line again. -/
theorem drawsAligned {headers : List Text} {rows : List (List Text)} (hheaders : headers ≠ [])
    (hbreaks : ∀ cells ∈ headers :: rows, ∀ cell ∈ cells, '\n' ∉ cell) :
    DrawsAligned headers rows := by
  have hnonempty : headers.isEmpty = false := List.isEmpty_eq_false_iff.mpr hheaders
  have hragged : (rows.any fun row => row.length != headers.length) = true ↔
      ∃ row ∈ rows, row.length ≠ headers.length := by
    simp only [List.any_eq_true, bne_iff_ne]
  constructor
  · rw [render, hnonempty, ← hragged]
    cases rows.any fun row => row.length != headers.length <;> simp
  · intro hrows
    have heven : (rows.any fun row => row.length != headers.length) = false := by
      rw [Bool.eq_false_iff, ne_eq, hragged]
      rintro ⟨row, hrow, hne⟩
      exact hne (hrows row hrow)
    refine ⟨_, lines headers rows, columns headers rows, ?_,
      splitOn_flatMap_feed (feed_not_mem_of_mem_lines hbreaks), ?_, aligned_lines hrows⟩
    · rw [render, hnonempty, heven]
      rfl
    · obtain hlength := (spans_widths hrows).fits headers List.mem_cons_self
      rw [columns, length_columnsFrom]
      exact hlength.length_eq

/-- A table with a column of no width, and with a bar in a cell. -/
theorem drawsAligned_empty_column :
    [[], "Name".toList] ≠ ([] : List Text) ∧
      (∀ cells ∈ [[[], "Name".toList], [[], "a | b".toList]], ∀ cell ∈ cells, '\n' ∉ cell) ∧
        DrawsAligned [[], "Name".toList] [[[], "a | b".toList]] :=
  ⟨by decide, by decide, drawsAligned (by decide) (by decide)⟩

end LinePipe.MarkdownTable
