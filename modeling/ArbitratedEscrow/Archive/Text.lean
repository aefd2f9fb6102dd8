import ArbitratedEscrow.Archive.Basic
import ArbitratedEscrow.Json.Tree

/-!
# The archive as a text

An archive is written as a JSON object with an array of rows for each table and
an array for each row: its number, null if that is left open, and its cells. An
empty cell is null, and a cell that holds a fraction is false.
-/

namespace ArbitratedEscrow

namespace Cell

def toJson : Cell → Json
  | null => .null
  | integer n => .int n.toInt
  | text s => .string s
  | fraction => .bool false

def ofTree? : Json.Tree → Option Cell
  | .null => some .null
  | .bool false => some .fraction
  | .text s => s.map .text
  | .number n => do
    let size ← Json.Tree.wholeNumber? n
    ofInt? (if n.negative then -(size : Int) else size)
  | _ => none

end Cell

namespace Archive

def rowsToJson (rows : List Row) : Json :=
  .array (rows.map fun row =>
    .array (Json.optional (row.number.map fun n => .int n.toInt) :: row.cells.map Cell.toJson))

/-- The row whose number and cells stand in a list. -/
def rowOfCells? : List Cell → Option Row
  | .null :: cells => some ⟨none, cells⟩
  | .integer n :: cells => some ⟨some n, cells⟩
  | _ => none

def rowsOfTree? : Json.Tree → Option (List Row)
  | .array rows => rows.mapM fun
    | .array cells => cells.mapM Cell.ofTree? >>= rowOfCells?
    | _ => none
  | _ => none

def toJson (archive : Archive) : Json :=
  .object
    (Table.all.map fun table => (table.name, rowsToJson (archive.rows table)))

def ofTree? (tree : Json.Tree) : Option Archive := do
  match ← tree.allFields (Table.all.map Table.name) with
  | [players, contracts, payouts, settings] =>
    return {
      players := ← rowsOfTree? players
      contracts := ← rowsOfTree? contracts
      payouts := ← rowsOfTree? payouts
      settings := ← rowsOfTree? settings }
  | _ => none

end Archive

end ArbitratedEscrow
