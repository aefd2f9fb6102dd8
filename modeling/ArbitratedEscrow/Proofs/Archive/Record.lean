import ArbitratedEscrow.Proofs.Archive.RoundTrip
import ArbitratedEscrow.Proofs.Ledger.Made

/-!
# Archives that ledgers were kept in

An archive in which nothing but ledgers has been kept holds the last one of them
and no trace of those before: one row for each entry, one for the selection
(`Archive.Records`). Its keys are distinct, its payouts have their contracts, and
each of its words and seconds is read for what it is. Rows are compared by their
cells; their numbers and their order say nothing about a ledger.
-/

namespace ArbitratedEscrow

def Cell.TellsStatus (cell : Cell) : Prop :=
  ∃ word status, cell = .text word ∧ TxStatus.ofWord? word = some status

def Cell.TellsInstant (cell : Cell) : Prop :=
  ∃ second start, cell = .integer second ∧ Instant.ofSeconds? second.toInt = some start

def Table.cell? (table : Table) (row : Row) (name : String) : Option Cell :=
  ((table.columns.zip row.cells).find? fun entry => entry.1.name == name).map (·.2)

namespace Archive

variable {archive other kept : Archive} {ledger earlier : Ledger}

/-- An archive has a row for each entry of a ledger, one for its selection, and no others. -/
structure Records (archive : Archive) (ledger : Ledger) : Prop where
  players : archive.players.map Row.cells = ledger.playerList.map cellsOfPlayer
  contracts : archive.contracts.map Row.cells = ledger.contractList.map cellsOfContract
  payouts : archive.payouts.map Row.cells = ledger.payoutList.map cellsOfPayout
  settings : archive.settings.map Row.cells = (ledger.selected.map cellsOfSelection).toList

/-- The keys of an archive identify its rows, and its payouts refer to contracts that are there. -/
structure Consistent (archive : Archive) : Prop where
  keys_distinct : ∀ table, ((archive.rows table).map Row.key).Nodup
  payouts_backed : ∀ row ∈ archive.payouts, archive.hasKey .contracts row.key = true

/-- No status and no instant in an archive has to be made up when it is read. -/
structure Legible (archive : Archive) : Prop where
  funding : ∀ row ∈ archive.contracts, ∃ cell,
    Table.contracts.cell? row "funding_tx" = some cell ∧ cell.TellsStatus
  filed : ∀ row ∈ archive.contracts, ∃ cell,
    Table.contracts.cell? row "created_at" = some cell ∧ cell.TellsInstant
  transaction : ∀ row ∈ archive.payouts, ∃ cell,
    Table.payouts.cell? row "payout_tx" = some cell ∧ cell.TellsStatus
  proposed : ∀ row ∈ archive.payouts, ∃ cell,
    Table.payouts.cell? row "created_at" = some cell ∧ cell.TellsInstant

/-- Two archives have the same rows in each table, in whatever order and under whatever numbers. -/
def SameRows (archive other : Archive) : Prop :=
  ∀ table, ((archive.rows table).map Row.cells).Perm ((other.rows table).map Row.cells)

/-- Archives that are blank or have had nothing but ledgers kept in them. -/
inductive Written : Archive → Prop where
  | blank : Written .empty
  | kept {before after : Archive} {ledger : Ledger} (written : Written before)
      (wellFormed : ledger.WellFormed) (keeps : before.keep? ledger = some after) : Written after

/-! ### What keeping leaves -/

/-- All that a ledger finds in an archive is the settings that have nothing to do with it. -/
theorem keep?_congr
    (settings : (archive.settings.filter fun row => Row.key row != selectedKey) =
      other.settings.filter fun row => Row.key row != selectedKey) :
    archive.keep? ledger = other.keep? ledger := by
  simp only [keep?, settings]

theorem Records.holds (records : archive.Records ledger) : archive.Holds ledger := by
  have none_else : ∀ row ∈ ([] : List Row), Row.key row ≠ selectedKey := by simp
  exact ⟨records.players, records.contracts, records.payouts,
    selected?_of_settings none_else (List.nil_append _).symm records.settings⟩

/-- The only setting beside a ledger's entries is the one of its selection. -/
theorem Records.no_others (records : archive.Records ledger) :
    (archive.settings.filter fun row => Row.key row != selectedKey) = [] := by
  refine List.filter_eq_nil_iff.mpr fun row member => ?_
  have noted : row.cells ∈ (ledger.selected.map cellsOfSelection).toList :=
    records.settings ▸ List.mem_map_of_mem member
  obtain ⟨id, _, cells⟩ := Option.map_eq_some_iff.mp (Option.mem_toList.mp noted)
  have key : Row.key row = selectedKey := by
    rw [Row.key, ← cells]
    rfl
  simp [key]

theorem keep_empty (wellFormed : ledger.WellFormed) :
    ∃ kept, Archive.empty.keep? ledger = some kept ∧ kept.Records ledger := by
  obtain ⟨kept, noted, keeps, players, contracts, payouts, settings, cells⟩ :=
    keep_rows wellFormed .empty
  have settings : kept.settings = noted := settings
  exact ⟨kept, keeps, players, contracts, payouts, settings ▸ cells⟩

/-- A ledger is kept where another one was as it would be in a blank archive. -/
theorem Records.keep (records : archive.Records earlier) (wellFormed : ledger.WellFormed) :
    ∃ kept, archive.keep? ledger = some kept ∧ Archive.empty.keep? ledger = some kept ∧
      kept.Records ledger := by
  obtain ⟨kept, keeps, recorded⟩ := keep_empty wellFormed
  exact ⟨kept, (keep?_congr records.no_others).trans keeps, keeps, recorded⟩

theorem records_empty : Archive.empty.Records .empty := by
  have contracts : Ledger.empty.contractList = [] := List.mergeSort_nil
  exact ⟨rfl, by rw [contracts]; rfl, rfl, rfl⟩

theorem Written.records (written : archive.Written) :
    ∃ ledger, ledger.WellFormed ∧ archive.Records ledger := by
  induction written with
  | blank => exact ⟨.empty, Ledger.wellFormed_empty, records_empty⟩
  | @kept before after ledger _ wellFormed keeps earlier =>
    obtain ⟨earlier, _, records⟩ := earlier
    obtain ⟨again, keeps_again, _, recorded⟩ := records.keep wellFormed
    cases keeps.symm.trans keeps_again
    exact ⟨ledger, wellFormed, recorded⟩

/-! ### What the rows say -/

/-- Every row was made from an entry. -/
theorem entry_of_row {α : Type} {cellsOf : α → List Cell} {rows : List Row} {entries : List α}
    (cells : rows.map Row.cells = entries.map cellsOf) {row : Row} (member : row ∈ rows) :
    ∃ entry ∈ entries, row.cells = cellsOf entry := by
  have made : row.cells ∈ entries.map cellsOf := cells ▸ List.mem_map_of_mem member
  obtain ⟨entry, listed, same⟩ := List.mem_map.mp made
  exact ⟨entry, listed, same.symm⟩

theorem map_key {α : Type} {cellsOf : α → List Cell} {rows : List Row} {entries : List α}
    (cells : rows.map Row.cells = entries.map cellsOf) :
    rows.map Row.key = entries.map fun entry => Cell.keyOf (cellsOf entry) := by
  have keys := congrArg (List.map Cell.keyOf) cells
  rwa [List.map_map, List.map_map] at keys

theorem Records.consistent (records : archive.Records ledger) (wellFormed : ledger.WellFormed) :
    archive.Consistent where
  keys_distinct table := by
    cases table with
    | players =>
      rw [rows, map_key records.players]
      exact nodup_playerCells wellFormed
    | contracts =>
      rw [rows, map_key records.contracts]
      exact nodup_contractCells wellFormed
    | payouts =>
      rw [rows, map_key records.payouts]
      exact nodup_payoutCells wellFormed
    | settings =>
      have keys := congrArg (List.map Cell.keyOf) records.settings
      rw [List.map_map] at keys
      change (archive.settings.map (Cell.keyOf ∘ Row.cells)).Nodup
      rw [keys]
      cases ledger.selected with
      | none => exact List.nodup_nil
      | some id => exact List.nodup_singleton _
  payouts_backed row member := by
    obtain ⟨payout, listed, cells⟩ := entry_of_row records.payouts member
    obtain ⟨contract, listed, same⟩ := wellFormed.contract_of_payout listed
    have key : Row.key row = .text contract.id.text := by
      rw [Row.key, cells, same]
      rfl
    rw [key]
    exact hasKey_contract records.contracts listed

theorem tellsStatus_word (status : TxStatus) : (Cell.text status.word).TellsStatus :=
  ⟨status.word, status, rfl, TxStatus.ofWord?_word status⟩

theorem tellsInstant_ofInstant (t : Instant) : (Cell.ofInstant t).TellsInstant := by
  refine ⟨.ofInt t.seconds, t.wholeSecond, rfl, ?_⟩
  rw [toInt_seconds, Instant.ofSeconds?_seconds]

theorem Records.legible (records : archive.Records ledger) : archive.Legible where
  funding row member := by
    obtain ⟨contract, _, cells⟩ := entry_of_row records.contracts member
    refine ⟨.text contract.funding.word, ?_, tellsStatus_word _⟩
    rw [Table.cell?, cells]
    rfl
  filed row member := by
    obtain ⟨contract, _, cells⟩ := entry_of_row records.contracts member
    refine ⟨.ofInstant contract.createdAt, ?_, tellsInstant_ofInstant _⟩
    rw [Table.cell?, cells]
    rfl
  transaction row member := by
    obtain ⟨payout, _, cells⟩ := entry_of_row records.payouts member
    refine ⟨.text payout.transaction.word, ?_, tellsStatus_word _⟩
    rw [Table.cell?, cells]
    rfl
  proposed row member := by
    obtain ⟨payout, _, cells⟩ := entry_of_row records.payouts member
    refine ⟨.ofInstant payout.createdAt, ?_, tellsInstant_ofInstant _⟩
    rw [Table.cell?, cells]
    rfl

/-- The rows of a ledger are those of the ledger that comes back, though perhaps in another order. -/
theorem Records.sameRows (records : archive.Records ledger)
    (again : other.Records ledger.wholeSeconds) : other.SameRows archive := by
  intro table
  cases table with
  | players => exact List.Perm.of_eq (again.players.trans records.players.symm)
  | contracts =>
    have uncut : cellsOfContract ∘ Contract.wholeSecond = cellsOfContract := rfl
    have cut : ledger.wholeSeconds.contracts.values.map cellsOfContract =
        ledger.contracts.values.map cellsOfContract := by
      rw [Ledger.wholeSeconds, Directory.values_map, List.map_map, uncut]
    rw [rows, rows, again.contracts, records.contracts]
    refine (ledger.wholeSeconds.perm_contractList.map _).trans ?_
    rw [cut]
    exact (ledger.perm_contractList.map _).symm
  | payouts =>
    have uncut : cellsOfPayout ∘ Payout.wholeSecond = cellsOfPayout := rfl
    refine List.Perm.of_eq (again.payouts.trans (Eq.trans ?_ records.payouts.symm))
    change (ledger.payouts.map Payout.wholeSecond).values.map cellsOfPayout = _
    rw [Directory.values_map, List.map_map, uncut]
    rfl
  | settings => exact List.Perm.of_eq (again.settings.trans records.settings.symm)

/-! ### There and back -/

/--
A ledger that edits and archives have made is kept in an archive that ledgers were
kept in before, which leaves just its own rows, as in a blank archive, with their
keys in order. It comes back with its instants cut to whole seconds, whatever the
time is, and to keep and to load it once more changes no row and no entry.
-/
theorem kept_comes_back (made : ledger.Made) (written : archive.Written) :
    ∃ kept, archive.keep? ledger = some kept ∧ Archive.empty.keep? ledger = some kept ∧
      kept.Records ledger ∧ kept.Consistent ∧ kept.Legible ∧
      (∀ now, kept.load? now = some ledger.wholeSeconds) ∧
      ∃ again, kept.keep? ledger.wholeSeconds = some again ∧ again.SameRows kept ∧
        ∀ now, again.load? now = some ledger.wholeSeconds := by
  have wellFormed := made.wellFormed
  obtain ⟨earlier, _, recorded⟩ := written.records
  obtain ⟨kept, keeps, keeps_blank, records⟩ := recorded.keep wellFormed
  have loads : ∀ now, kept.load? now = some ledger.wholeSeconds :=
    load_of_holds wellFormed records.holds
  obtain ⟨again, keeps_again, _, records_again⟩ := records.keep wellFormed.wholeSeconds
  have loads_again : ∀ now, again.load? now = some ledger.wholeSeconds := fun now =>
    (load_of_holds wellFormed.wholeSeconds records_again.holds now).trans
      (congrArg some Ledger.wholeSeconds_wholeSeconds)
  exact ⟨kept, keeps, keeps_blank, records, records.consistent wellFormed, records.legible, loads,
    again, keeps_again, records.sameRows records_again, loads_again⟩

def beforeEpoch : Instant := ⟨-1, 600000000, by decide, by decide, by decide⟩

/-- A contract over all the pot there can be, with a payout, from before the epoch. -/
def farOff : Ledger :=
  let edits : List Ledger.Edit :=
    [.addPlayer ⟨⟨"it's"⟩, "", "\u0000", true⟩, .select ⟨"it's"⟩,
      .addContract ⟨⟨"α"⟩, ⟨"it's"⟩, ⟨"nobody"⟩, 18446744073709551615, "a\nb", .blank, .broadcast,
        beforeEpoch⟩,
      .addPayout ⟨⟨"α"⟩, 9223372036854775808, 0, .blank, true, .confirmed, beforeEpoch⟩]
  edits.foldl (fun ledger e => (ledger.edit e).2) .empty

theorem made_farOff : farOff.Made :=
  .edited (.edited (.edited (.edited .empty _) _) _) _

/-- It comes back from where another ledger was, and that one's players are gone. -/
theorem kept_comes_back_farOff :
    ∃ before kept, Archive.empty.keep? .renamed = some before ∧
      before.keep? farOff = some kept ∧ kept.players.map Row.cells =
        [[.text "it's", .text "", .text "\u0000", .integer 1]] ∧
      ∀ now, kept.load? now = some farOff.wholeSeconds ∧
        (farOff.wholeSeconds.payout? ⟨"α"⟩).map (·.createdAt.nanos) = some 0 ∧
        (farOff.wholeSeconds.contract? ⟨"α"⟩).map (·.amount) = some 18446744073709551615 := by
  obtain ⟨before, keeps_before, _⟩ := keep_load Ledger.made_renamed.wellFormed .empty
  have written : before.Written := .kept .blank Ledger.made_renamed.wellFormed keeps_before
  obtain ⟨kept, keeps, _, records, _, _, loads, _⟩ := kept_comes_back made_farOff written
  have players : farOff.playerList = [⟨⟨"it's"⟩, "", "\u0000", true⟩] := by decide +kernel
  refine ⟨before, kept, keeps_before, keeps, ?_, fun now => ⟨loads now, ?_, ?_⟩⟩
  · rw [records.players, players]
    rfl
  · decide +kernel
  · decide +kernel

end Archive

end ArbitratedEscrow
