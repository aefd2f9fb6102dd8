import ArbitratedEscrow.Archive.Cell

/-!
# The archive

Four tables of numbered rows. A row is admitted to a table if each required
column has a value, and a payout's contract is in the table of contracts. The
first column of each table is its key: no two rows share a key, but any number
may have none. No two rows share a number either. A statement that is refused
changes nothing.
-/

namespace ArbitratedEscrow

/--
A row of a table: its number there, and its cells in the order of the columns. A
number drawn at random, which nobody can name, is left open.
-/
structure Row where
  number : Option Int64
  cells : List Cell
deriving DecidableEq

structure Column where
  name : String
  affinity : Affinity
  required : Bool

inductive Table where
  | players
  | contracts
  | payouts
  | settings
deriving DecidableEq

namespace Table

def all : List Table := [players, contracts, payouts, settings]

def name : Table → String
  | players => "players"
  | contracts => "contracts"
  | payouts => "payouts"
  | settings => "settings"

def ofName? (name : String) : Option Table :=
  all.find? fun table => table.name == name.toLower

def textColumn (name : String) : Column := ⟨name, .text, true⟩

def integerColumn (name : String) : Column := ⟨name, .integer, true⟩

/-- The first column of a table, whose value may be missing. -/
def keyColumn (name : String) : Column := ⟨name, .text, false⟩

def columns : Table → List Column
  | players =>
    [keyColumn "id", textColumn "name", textColumn "picture_url", integerColumn "mine"]
  | contracts =>
    [keyColumn "id", textColumn "player_one", textColumn "player_two", integerColumn "amount",
      textColumn "description", integerColumn "player_one_sig", integerColumn "player_two_sig",
      integerColumn "arbiter_sig", textColumn "funding_tx", integerColumn "created_at"]
  | payouts =>
    [keyColumn "contract_id", integerColumn "p1_amount", integerColumn "p2_amount",
      integerColumn "player_one_sig", integerColumn "player_two_sig", integerColumn "arbiter_sig",
      integerColumn "payout_token", textColumn "payout_tx", integerColumn "created_at"]
  | settings => [keyColumn "key", textColumn "value"]

end Table

def Cell.keyOf (cells : List Cell) : Cell := cells.head?.getD .null

def Row.key (row : Row) : Cell := Cell.keyOf row.cells

/-- Whether a name, in letters of either case, stands for the number of a row. -/
def Row.isNumberName (name : String) : Bool := ["rowid", "oid", "_rowid_"].contains name.toLower

/-- The number of a new row beside others: the next one, or any after the last possible one. -/
def Row.nextNumber (rows : List Row) : Option Int64 :=
  if rows.any fun row => row.number = none || row.number = some Int64.maxValue then none
  else some (((rows.filterMap Row.number).max?.map (· + 1)).getD 1)

structure Archive where
  players : List Row := []
  contracts : List Row := []
  payouts : List Row := []
  settings : List Row := []
deriving DecidableEq

namespace Archive

def empty : Archive := {}

def rows (archive : Archive) : Table → List Row
  | .players => archive.players
  | .contracts => archive.contracts
  | .payouts => archive.payouts
  | .settings => archive.settings

def withRows (archive : Archive) (table : Table) (rows : List Row) : Archive :=
  match table with
  | .players => { archive with players := rows }
  | .contracts => { archive with contracts := rows }
  | .payouts => { archive with payouts := rows }
  | .settings => { archive with settings := rows }

/-- Whether a table has a row with a key. No row counts as having an empty key. -/
def hasKey (archive : Archive) (table : Table) (key : Cell) : Bool :=
  key != .null && (archive.rows table).any fun row => Row.key row == key

/-- The cells of a row in the forms its columns prefer, if the table admits them. -/
def fit? (archive : Archive) (table : Table) (cells : List Cell) : Option (List Cell) :=
  let converted := (table.columns.zip cells).map fun (column, cell) => cell.convert column.affinity
  let filled := (table.columns.zip converted).all fun (column, cell) =>
    !column.required || cell != .null
  let referred := table != .payouts || Cell.keyOf converted == .null ||
    archive.hasKey .contracts (Cell.keyOf converted)
  if filled && referred then some converted else none

/--
The number of a new row for which a cell may be given. The cell must hold an
integer, or spell one, that no other row has; an empty cell asks for nothing.
-/
def numberFor? (archive : Archive) (table : Table) (asked : Option Cell) :
    Option (Option Int64) :=
  match (asked.getD .null).convert .integer with
  | .null => some (Row.nextNumber (archive.rows table))
  | .integer n =>
    if (archive.rows table).any fun row => row.number = some n then none else some (some n)
  | _ => none

/-- Adds a row whose key is not there yet, under a given number if one is asked for. -/
def insertRow (archive : Archive) (table : Table) (asked : Option Cell) (cells : List Cell) :
    Option Archive := do
  let admitted ← archive.fit? table cells
  let number ← archive.numberFor? table asked
  if archive.hasKey table (Cell.keyOf admitted) then none
  else return archive.withRows table (archive.rows table ++ [⟨number, admitted⟩])

/-- Adds a row, in place of the row with its key. -/
def putRow (archive : Archive) (table : Table) (cells : List Cell) : Option Archive := do
  let admitted ← archive.fit? table cells
  let others := (archive.rows table).filter fun other =>
    Row.key other == .null || Row.key other != Cell.keyOf admitted
  return archive.withRows table (others ++ [⟨Row.nextNumber (archive.rows table), admitted⟩])

/--
Adds a row given by named cells, with nothing in the columns that are not named.
The table and the columns must exist, and at least one column must be named. Of
two cells for a column the first counts, of two for the row's number the last.
-/
def insert (archive : Archive) (table : String) (cells : List (String × Cell)) :
    Option Archive := do
  let table ← Table.ofName? table
  let known := cells.all fun (name, _) => Row.isNumberName name ||
    table.columns.any fun column => column.name == name.toLower
  if cells.isEmpty || !known then none
  else
    let asked := (cells.filter fun (name, _) => Row.isNumberName name).getLast?
    archive.insertRow table (asked.map (·.2)) <| table.columns.map fun column =>
      ((cells.find? fun (name, _) => name.toLower == column.name).map (·.2)).getD .null

/-- Drops all rows of a table. Contracts stay as long as a payout refers to one. -/
def clearTable (archive : Archive) (table : Table) : Option Archive :=
  if table == .contracts && archive.payouts.any fun row => Row.key row != .null then none
  else some (archive.withRows table [])

/-- Drops all rows of the table of a name and tells how many there were. -/
def clear (archive : Archive) (table : String) : Option (Nat × Archive) := do
  let table ← Table.ofName? table
  let cleared ← archive.clearTable table
  return ((archive.rows table).length, cleared)

end Archive

end ArbitratedEscrow
