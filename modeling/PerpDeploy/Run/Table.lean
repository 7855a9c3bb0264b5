/-
Tables drawn with box characters. A cell may have several lines; a column is as wide as
its widest line.
-/

import PerpDeploy.Text.Width

namespace PerpDeploy

structure TableRule where
  left : String
  line : Char
  crossing : String
  right : String

structure Table where
  header : List String
  rows : List (List String)

namespace Table

def topRule : TableRule := { left := "┌", line := '─', crossing := "┬", right := "┐" }

def headerRule : TableRule := { left := "╞", line := '═', crossing := "╪", right := "╡" }

def rowRule : TableRule := { left := "├", line := '╌', crossing := "┼", right := "┤" }

def bottomRule : TableRule := { left := "└", line := '─', crossing := "┴", right := "┘" }

def cellWidth (cell : String) : Nat :=
  (cell.splitOn "\n").foldl (fun width line => max width (Text.displayWidth line)) 0

/-- Columns as wide as their widest cell. -/
def widths (table : Table) : List Nat :=
  table.rows.foldl
    (fun widths row => widths.zipWith (fun width cell => max width (cellWidth cell)) row)
    (table.header.map cellWidth)

def drawRule (widths : List Nat) (rule : TableRule) : String :=
  rule.left ++
    rule.crossing.intercalate
      (widths.map fun width => String.ofList (List.replicate (width + 2) rule.line)) ++
    rule.right

private def padded (width : Nat) (text : String) : String :=
  " " ++ text ++ String.ofList (List.replicate (width - Text.displayWidth text) ' ') ++ " "

/-- The lines of one row, as many as its highest cell has. -/
def drawRow (widths : List Nat) (row : List String) : List String :=
  let cells := row.map fun cell => cell.splitOn "\n"
  let height := cells.foldl (fun height lines => max height lines.length) 0
  (List.range height).map fun index =>
    let texts := (widths.zip cells).map fun cell => padded cell.1 (cell.2.getD index "")
    "│" ++ "┆".intercalate texts ++ "│"

def lines (table : Table) : List String :=
  let widths := table.widths
  let rows := (table.rows.map (drawRow widths)).intersperse [drawRule widths rowRule]
  [drawRule widths topRule] ++ drawRow widths table.header ++ [drawRule widths headerRule] ++
    rows.flatten ++ [drawRule widths bottomRule]

def draw (table : Table) : String := "\n".intercalate table.lines

end Table

end PerpDeploy
