/-!
# Tables

A table is drawn with lines between all rows and columns and with rounded corners. A column is as
wide as its widest cell, and cells are filled up with spaces on the right.
-/

namespace Quadrature.Table

/-- Rows of cells. -/
abbrev Rows := List (List String)

/-- A cell filled up to a width. -/
def pad (width : Nat) (cell : String) : String :=
  cell ++ String.ofList (List.replicate (width - cell.length) ' ')

/-- The width of every column. -/
def widths (rows : Rows) : List Nat :=
  rows.foldl (fun ws row =>
    let cells := row.map String.length
    (cells.zipWith max ws) ++ ws.drop cells.length ++ cells.drop ws.length) []

/-- A line between rows: its left end, what crosses the columns, and its right end. -/
def rule (left cross right : String) (ws : List Nat) : String :=
  left ++ cross.intercalate (ws.map fun w => String.ofList (List.replicate (w + 2) '─')) ++ right

/-- A row of cells. -/
def row (ws : List Nat) (cells : List String) : String :=
  "│ " ++ " │ ".intercalate (ws.zipWith pad cells) ++ " │"

/-- The lines of a table. -/
def lines (rows : Rows) : List String :=
  let ws := widths rows
  let between := (rows.map (row ws)).intersperse (rule "├" "┼" "┤" ws)
  [rule "╭" "┬" "╮" ws] ++ between ++ [rule "╰" "┴" "╯" ws]

/-- The drawing of a table. -/
def text (rows : Rows) : String := "\n".intercalate (lines rows)

end Quadrature.Table
