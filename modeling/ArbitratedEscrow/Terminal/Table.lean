import ArbitratedEscrow.Text.Split
import ArbitratedEscrow.Text.Width

/-!
# Tables

A table has a header and rows of as many cells, drawn with lines around them. A
column is as wide as its widest cell. Cells start at the left, with a blank on
each side, and a cell may have several lines.
-/

namespace ArbitratedEscrow.Terminal

structure Table where
  header : List String
  rows : List (List String)

namespace Table

def linesOf (cell : String) : List (List Char) := Text.split '\n' cell.toList

def cellWidth (cell : String) : Nat :=
  (linesOf cell).foldl (fun widest line => max widest (Text.width line)) 0

/-- The widths of the table's columns. -/
def widths (table : Table) : List Nat :=
  table.rows.foldl (fun widest row => List.zipWith max widest (row.map cellWidth))
    (table.header.map cellWidth)

structure Rule where
  left : Char
  line : Char
  cross : Char
  right : Char

def topRule : Rule := ⟨'┌', '─', '┬', '┐'⟩

def headerRule : Rule := ⟨'╞', '═', '╪', '╡'⟩

def rowRule : Rule := ⟨'├', '╌', '┼', '┤'⟩

def bottomRule : Rule := ⟨'└', '─', '┴', '┘'⟩

def Rule.draw (rule : Rule) (widths : List Nat) : List Char :=
  let stretches := widths.map fun width => List.replicate (width + 2) rule.line
  rule.left :: [rule.cross].intercalate stretches ++ [rule.right]

/-- One line of each cell of a row, side by side. -/
def drawLine (widths : List Nat) (line : List (List Char)) : List Char :=
  let cells := List.zipWith (fun width text => ' ' :: Text.padRight width text ++ [' ']) widths line
  '│' :: ['┆'].intercalate cells ++ ['│']

/-- The lines of a row. It has as many as its highest cell; lower cells go on with empty lines. -/
def drawRow (widths : List Nat) (row : List String) : List (List Char) :=
  let cells := row.map linesOf
  let height := cells.foldl (fun highest cell => max highest cell.length) 0
  (List.range height).map fun i => drawLine widths (cells.map fun cell => cell.getD i [])

/-- All lines of the table. -/
def draw (table : Table) : List (List Char) :=
  let widths := table.widths
  let rows := table.rows.map (drawRow widths)
  topRule.draw widths :: drawRow widths table.header ++ headerRule.draw widths ::
    [rowRule.draw widths].intercalate rows ++ [bottomRule.draw widths]

/-- The table as a text without a final line break. -/
def text (table : Table) : String := String.ofList (Text.join '\n' table.draw)

end Table

end ArbitratedEscrow.Terminal
