/-
The token listing as a table for a terminal.

A frame goes around the table and a double line under its head.  Every column is as wide
as its widest cell, and between two columns there are three spaces.
-/
import MessageTemplate.Text.Quoted
import MessageTemplate.Text.Width
import MessageTemplate.Token.Row

namespace MessageTemplate

namespace Table

/-- The width of the widest cell in each column. -/
def widths (rows : List (List String)) : List Nat :=
  let widen (row : List String) (widest : List Nat) : List Nat :=
    widest.zipWith (fun width cell => max width (displayWidth cell)) row
  rows.foldr widen ((rows.headD []).map fun _ => 0)

/-- A cell and the spaces after it. -/
def padded (width : Nat) (cell : String) : String :=
  cell ++ "".pushn ' ' (width - displayWidth cell)

/-- A line of cells. -/
def line (widths : List Nat) (row : List String) : String :=
  "│ " ++ "   ".intercalate (widths.zipWith padded row) ++ " │"

/-- A line of the frame. -/
def rule (first fill last : String) (widths : List Nat) : String :=
  let columns := widths.foldr (· + ·) 0 + 3 * (widths.length - 1) + 2
  first ++ String.join (List.replicate columns fill) ++ last

/-- The lines of a table. -/
def lines (head : List String) (rows : List (List String)) : List String :=
  let widths := widths (head :: rows)
  [rule "┌" "─" "┐" widths, line widths head, rule "╞" "═" "╡" widths] ++
    rows.map (line widths) ++ [rule "└" "─" "┘" widths]

end Table

namespace Token

/-- The cells of a row; the text is quoted. -/
def Row.cells (row : Row) : List String :=
  [toString row.index, toString row.offset, row.kind, quotedText row.text]

/-- The lines of the table for a listing. -/
def tableLines (rows : List Row) : List String :=
  Table.lines ["#", "Offset", "Kind", "Text"] (rows.map Row.cells)

end Token

end MessageTemplate
