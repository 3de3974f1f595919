import SchemaGate.Text.Width

/-!
# Boxed tables

A heading and rows of cells, drawn with lines.  A cell with several lines makes its row as high, and a
column is as wide as its widest line.
-/

namespace SchemaGate

structure Table where
  heading : List String
  rows : List (List String)
deriving DecidableEq, Repr

namespace Table

/-- The parts of a horizontal line: its left end, its dashes, where it meets a column, its right end. -/
structure Rule where
  left : String
  dash : Char
  cross : String
  right : String
deriving DecidableEq, Repr

def topRule : Rule := ⟨"┌", '─', "┬", "┐"⟩

def headingRule : Rule := ⟨"╞", '═', "╪", "╡"⟩

def rowRule : Rule := ⟨"├", '╌', "┼", "┤"⟩

def bottomRule : Rule := ⟨"└", '─', "┴", "┘"⟩

def cellLines (cell : String) : List String :=
  cell.splitOn "\n"

def cellWidth (cell : String) : Nat :=
  ((cellLines cell).map Width.ofText).foldl max 0

/-- The widths of the columns; all rows have as many cells as the heading. -/
def widths (t : Table) : List Nat :=
  t.rows.foldl (fun ws row => List.zipWith max ws (row.map cellWidth)) (t.heading.map cellWidth)

/-- A line across the table; every column has a blank on both sides. -/
def Rule.draw (rule : Rule) (widths : List Nat) : String :=
  rule.left ++
    String.intercalate rule.cross
      (widths.map fun w => String.ofList (List.replicate (w + 2) rule.dash)) ++
    rule.right

def fill (width : Nat) (text : String) : String :=
  text ++ String.ofList (List.replicate (width - Width.ofText text) ' ')

def drawLine (widths : List Nat) (texts : List String) : String :=
  "│ " ++ String.intercalate " ┆ " (List.zipWith fill widths texts) ++ " │"

def drawRow (widths : List Nat) (row : List String) : List String :=
  let cells := row.map cellLines
  let height := (cells.map List.length).foldl max 0
  (List.range height).map fun i => drawLine widths (cells.map fun lines => lines[i]?.getD "")

def draw (t : Table) : List String :=
  let ws := t.widths
  [topRule.draw ws] ++ drawRow ws t.heading ++ [headingRule.draw ws] ++
    List.intercalate [rowRule.draw ws] (t.rows.map (drawRow ws)) ++
    [bottomRule.draw ws]

end Table

end SchemaGate
