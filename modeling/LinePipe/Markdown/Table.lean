import LinePipe.Text.Basic

/-!
# Markdown tables

Tables of left-aligned columns, every column as wide as its widest cell.

## Main definitions

- `MarkdownTable.widths`: the widths of the columns
- `MarkdownTable.render`: the text of a table
-/

namespace LinePipe.MarkdownTable

/-- Why there is no table: some row has more or fewer cells than there are headers. -/
inductive Failure where
  | raggedRow
  deriving Repr, DecidableEq

def Failure.message : Failure → Text
  | .raggedRow => "All rows must have the same number of columns as headers".toList

/-- The widths of the columns: each is that of the widest cell. -/
def widths (headers : List Text) (rows : List (List Text)) : List Nat :=
  rows.foldl (fun ws row => List.zipWith max ws (row.map List.length)) (headers.map List.length)

def line (cells : List Text) : Text :=
  ['|', ' '] ++ Text.joinWith [' ', '|', ' '] cells ++ [' ', '|']

/-- The cells of a row, each padded to the width of its column. -/
def padded (ws : List Nat) (cells : List Text) : List Text :=
  List.zipWith Text.padRight ws cells

/-- The lines of a table: headers, dashes, rows. -/
def lines (headers : List Text) (rows : List (List Text)) : List Text :=
  let ws := widths headers rows
  line (padded ws headers) :: line (ws.map fun w => List.replicate w '-') ::
    rows.map fun row => line (padded ws row)

/-- The text of a table, each line ended by a line feed. Without headers it is empty. -/
def render (headers : List Text) (rows : List (List Text)) : Except Failure Text :=
  if headers.isEmpty then .ok []
  else if rows.any fun row => row.length != headers.length then .error .raggedRow
  else .ok ((lines headers rows).flatMap (· ++ ['\n']))

end LinePipe.MarkdownTable
