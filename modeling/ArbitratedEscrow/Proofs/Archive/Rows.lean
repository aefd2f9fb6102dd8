import ArbitratedEscrow.Archive.Keep
import ArbitratedEscrow.Proofs.Directory

/-!
# Rows in and out of the archive

Putting entries with distinct keys into a table adds one row for each, in order;
none replaces another. What is read off those rows is what was put in, with the
instants cut to whole seconds.
-/

namespace ArbitratedEscrow

/-- A contract as the archive gives it back. -/
def Contract.wholeSecond (contract : Contract) : Contract :=
  { contract with createdAt := contract.createdAt.wholeSecond }

def Payout.wholeSecond (payout : Payout) : Payout :=
  { payout with createdAt := payout.createdAt.wholeSecond }

namespace Archive

variable {archive : Archive} {table : Table}

@[simp] theorem rows_withRows (rows : List Row) :
    (archive.withRows table rows).rows table = rows := by
  cases table <;> rfl

@[simp] theorem withRows_withRows (rows rows' : List Row) :
    (archive.withRows table rows).withRows table rows' = archive.withRows table rows' := by
  cases table <;> rfl

@[simp] theorem withRows_rows : archive.withRows table (archive.rows table) = archive := by
  cases table <;> rfl

/-- What a table admits does not depend on its own rows. -/
@[simp] theorem fit?_withRows (rows : List Row) (cells : List Cell) :
    (archive.withRows table rows).fit? table cells = archive.fit? table cells := by
  cases table <;> rfl

theorem putRow_of_unused {cells : List Cell} (fits : archive.fit? table cells = some cells)
    (unused : ∀ row ∈ archive.rows table, Row.key row ≠ Cell.keyOf cells) :
    archive.putRow table cells = some (archive.withRows table
      (archive.rows table ++ [⟨Row.nextNumber (archive.rows table), cells⟩])) := by
  have others : (archive.rows table).filter (fun other =>
      Row.key other == .null || Row.key other != Cell.keyOf cells) = archive.rows table := by
    refine List.filter_eq_self.mpr fun row member => ?_
    simp [unused row member]
  rw [putRow, fits]
  simp [others]

theorem foldlM_putRow {α : Type} {cellsOf : α → List Cell} {entries : List α}
    (fits : ∀ a ∈ entries, archive.fit? table (cellsOf a) = some (cellsOf a))
    (distinct : (entries.map fun a => Cell.keyOf (cellsOf a)).Nodup)
    (unused : ∀ row ∈ archive.rows table, ∀ a ∈ entries, Row.key row ≠ Cell.keyOf (cellsOf a)) :
    ∃ rows, entries.foldlM (fun kept a => kept.putRow table (cellsOf a)) archive =
        some (archive.withRows table rows) ∧
      rows.map Row.cells = (archive.rows table).map Row.cells ++ entries.map cellsOf := by
  induction entries generalizing archive with
  | nil => exact ⟨archive.rows table, by simp, by simp⟩
  | cons first rest ih =>
    obtain ⟨absent, distinct⟩ := List.nodup_cons.mp distinct
    let row : Row := ⟨Row.nextNumber (archive.rows table), cellsOf first⟩
    let next := archive.withRows table (archive.rows table ++ [row])
    have put : archive.putRow table (cellsOf first) = some next :=
      putRow_of_unused (fits first List.mem_cons_self) fun row member =>
        unused row member first List.mem_cons_self
    have fits' : ∀ a ∈ rest, next.fit? table (cellsOf a) = some (cellsOf a) := by
      intro a member
      simpa [next] using fits a (List.mem_cons_of_mem first member)
    have unused' : ∀ row ∈ next.rows table, ∀ a ∈ rest,
        Row.key row ≠ Cell.keyOf (cellsOf a) := by
      intro held member a listed
      have member : held ∈ archive.rows table ∨ held = row := by simpa [next] using member
      rcases member with old | rfl
      · exact unused held old a (List.mem_cons_of_mem first listed)
      · intro same
        have same : Cell.keyOf (cellsOf first) = Cell.keyOf (cellsOf a) := same
        exact absent (List.mem_map.mpr ⟨a, listed, same.symm⟩)
    obtain ⟨rows, folded, cells⟩ := ih fits' distinct unused'
    refine ⟨rows, ?_, ?_⟩
    · rw [List.foldlM_cons, put]
      simpa [next] using folded
    · simpa [next, row] using cells

/-- Reading rows back, one by one. -/
theorem mapM_ofRow {α β : Type} {cellsOf : α → List Cell} {ofRow : Row → Option β} {back : α → β}
    (reads : ∀ row a, row.cells = cellsOf a → ofRow row = some (back a)) {entries : List α}
    {rows : List Row} (cells : rows.map Row.cells = entries.map cellsOf) :
    rows.mapM ofRow = some (entries.map back) := by
  induction entries generalizing rows with
  | nil =>
    have empty : rows = [] := by simpa using cells
    rw [empty]
    rfl
  | cons first rest ih =>
    obtain ⟨row, others, rfl, head, tail⟩ := List.map_eq_cons_iff.mp cells
    rw [List.mapM_cons, reads row first head, ih tail]
    rfl

/-! ### Single entries -/

theorem cell_ofBool (b : Bool) : ((if b then 1 else 0 : Int64) != 0) = b := by
  cases b <;> decide

theorem toInt_seconds (t : Instant) : (Int64.ofInt t.seconds).toInt = t.seconds := by
  have early := t.not_early
  have late := t.not_late
  simp only [Instant.earliest, Instant.latest] at early late
  exact Int64.toInt_ofInt_of_le (by omega) (by omega)

theorem instant_ofInt (now t : Instant) : instant now (.ofInt t.seconds) = t.wholeSecond := by
  rw [instant, toInt_seconds, Instant.ofSeconds?_seconds]
  rfl

theorem playerOfRow_cells {row : Row} {player : Player} (cells : row.cells = cellsOfPlayer player) :
    playerOfRow row = some player := by
  rw [playerOfRow, cells]
  simp only [cellsOfPlayer, Cell.ofBool, cell_ofBool]

theorem contractOfRow_cells (now : Instant) {row : Row} {contract : Contract}
    (cells : row.cells = cellsOfContract contract) :
    contractOfRow now row = some (.ofInt contract.createdAt.seconds, contract.wholeSecond) := by
  rw [contractOfRow, cells]
  simp only [cellsOfContract, Cell.ofBool, Cell.ofAmount, Cell.ofInstant, cell_ofBool,
    instant_ofInt, txStatus, TxStatus.ofWord?_word, UInt64.toUInt64_toInt64]
  rfl

theorem payoutOfRow_cells (now : Instant) {row : Row} {payout : Payout}
    (cells : row.cells = cellsOfPayout payout) :
    payoutOfRow now row = some payout.wholeSecond := by
  rw [payoutOfRow, cells]
  simp only [cellsOfPayout, Cell.ofBool, Cell.ofAmount, Cell.ofInstant, cell_ofBool,
    instant_ofInt, txStatus, TxStatus.ofWord?_word, UInt64.toUInt64_toInt64]
  rfl

end Archive

end ArbitratedEscrow
