import ApiLint.Report
import ApiLint.Text.Width

/-!
# Diagnostics as a table

A table has a heading and a row for every diagnostic, in order. A cell with line breaks
takes several lines, and the other cells of its row are filled up with empty ones. A column
is as wide as its widest line, with a blank on either side.
-/

namespace ApiLint.Report

/-- A row of a table: the text of each cell. -/
abbrev Cells := List String

def headings : Cells := ["File", "Location", "Severity", "Message"]

def cellsOf (diagnostic : Diagnostic) : Cells :=
  [diagnostic.filePath.shown, diagnostic.range.display, Diagnostic.severity, diagnostic.message]

def cellLines (cell : String) : List Text := Text.lines cell.toList

/-- The number of columns that a cell takes. -/
def cellWidth (cell : String) : Nat := ((cellLines cell).map Text.columns).foldl max 0

def columnWidths (rows : List Cells) (headings : Cells) : List Nat :=
  headings.zipIdx.map fun (heading, n) =>
    (rows.map fun cells => cellWidth (cells[n]?.getD "")).foldl max (cellWidth heading)

def fillTo (width : Nat) (line : Text) : Text :=
  line ++ List.replicate (width - line.columns) ' '

def rowLines (widths : List Nat) (cells : Cells) : List Text :=
  let columns := cells.map cellLines
  let height := (columns.map List.length).foldl max 1
  (List.range height).map fun n =>
    let pieces := (columns.zip widths).map fun (lines, width) =>
      ' ' :: fillTo width (lines[n]?.getD []) ++ [' ']
    '│' :: Text.join '│' pieces ++ ['│']

/-- A rule between two ends, crossed where columns meet. -/
def rule (left cross right : Char) (widths : List Nat) : Text :=
  left :: Text.join cross (widths.map fun width => List.replicate (width + 2) '─') ++ [right]

/-- The lines of a table of some rows. The bottom rule is drawn only if there are any. -/
def tableLines (rows : List Cells) : List Text :=
  let widths := columnWidths rows headings
  let body := rows.flatMap (rowLines widths)
  let bottom := if rows.isEmpty then [] else [rule '╰' '┴' '╯' widths]
  [rule '╭' '┬' '╮' widths] ++ rowLines widths headings ++ [rule '├' '┼' '┤' widths]
    ++ body ++ bottom

def table (reports : List Report) : String :=
  let rows := (reports.flatMap (·.diagnostics)).map cellsOf
  String.ofList (Text.join '\n' (tableLines rows))

end ApiLint.Report
