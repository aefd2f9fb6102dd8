import ArbitratedEscrow.Proofs.Archive.Rows
import ArbitratedEscrow.Proofs.Ledger.WellFormed

/-!
# Keeping and loading

A well-formed ledger can always be kept, and what is loaded afterwards is that
ledger with its instants cut to whole seconds (`Archive.keep_load`). Rows come
back in the archive's own order; a ledger does not depend on it.
-/

namespace ArbitratedEscrow

/-- A ledger as the archive gives it back. -/
def Ledger.wholeSeconds (ledger : Ledger) : Ledger :=
  { ledger with
    contracts := ledger.contracts.map Contract.wholeSecond
    payouts := ledger.payouts.map Payout.wholeSecond }

namespace Ledger

variable {ledger : Ledger}

theorem contract?_wholeSeconds (id : ContractId) :
    ledger.wholeSeconds.contract? id = (ledger.contract? id).map Contract.wholeSecond :=
  Directory.get?_map _ _ _

theorem payout?_wholeSeconds (id : ContractId) :
    ledger.wholeSeconds.payout? id = (ledger.payout? id).map Payout.wholeSecond :=
  Directory.get?_map _ _ _

theorem WellFormed.wholeSeconds (wellFormed : ledger.WellFormed) :
    ledger.wholeSeconds.WellFormed :=
  wellFormed.map (fun _ => rfl) (fun _ => rfl)

/-- Nothing is left to cut from a ledger that has come back. -/
theorem wholeSeconds_wholeSeconds : ledger.wholeSeconds.wholeSeconds = ledger.wholeSeconds := by
  simp only [wholeSeconds, Directory.map_map]
  rfl

theorem perm_contractList (ledger : Ledger) : ledger.contractList.Perm ledger.contracts.values :=
  List.mergeSort_perm _ _

/-- A payout that is listed has its contract listed, too. -/
theorem WellFormed.contract_of_payout (wellFormed : ledger.WellFormed) {payout : Payout}
    (listed : payout ∈ ledger.payoutList) :
    ∃ contract ∈ ledger.contractList, contract.id = payout.contract := by
  obtain ⟨id, stored⟩ := Directory.mem_values_iff.mp listed
  obtain ⟨contract, backed⟩ := wellFormed.payout_backed stored
  have same : contract.id = payout.contract :=
    (wellFormed.contract_keyed backed).trans (wellFormed.payout_keyed stored).symm
  exact ⟨contract, (perm_contractList ledger).mem_iff.mpr
    (Directory.mem_values_iff.mpr ⟨id, backed⟩), same⟩

/-- A ledger comes back from its entries in any order. -/
theorem restore_eq (wellFormed : ledger.WellFormed) {players : List Player}
    {contracts : List Contract} {payouts : List Payout}
    (samePlayers : players.Perm ledger.playerList)
    (sameContracts : contracts.Perm ledger.contracts.values)
    (samePayouts : payouts.Perm ledger.payoutList) :
    restore players contracts payouts ledger.selected = ledger := by
  have player_keyed : ∀ {id player}, ledger.players.get? id = some player → player.id = id :=
    wellFormed.player_keyed
  have contract_keyed : ∀ {id contract},
      ledger.contracts.get? id = some contract → contract.id = id := wellFormed.contract_keyed
  have payout_keyed : ∀ {id payout},
      ledger.payouts.get? id = some payout → payout.contract = id := wellFormed.payout_keyed
  have backed : ∀ payout ∈ payouts, ledger.contracts.contains payout.contract = true := by
    intro payout member
    obtain ⟨id, stored⟩ := Directory.mem_values_iff.mp (samePayouts.mem_iff.mp member)
    rw [payout_keyed stored]
    exact Directory.contains_iff.mpr (wellFormed.payout_backed stored)
  have selected :
      ledger.selected.filter (fun id => ledger.players.contains id) = ledger.selected := by
    cases selected : ledger.selected with
    | none => rfl
    | some id =>
      have stored : ledger.players.contains id = true :=
        Directory.contains_iff.mpr (wellFormed.selected_stored selected)
      rw [Option.filter_some, if_pos stored]
  simp only [restore, Directory.ofList_values player_keyed samePlayers,
    Directory.ofList_values contract_keyed sameContracts, List.filter_eq_self.mpr backed,
    Directory.ofList_values payout_keyed samePayouts, selected]

end Ledger

namespace Archive

variable {archive : Archive} {ledger : Ledger}

/-- What tells that an archive holds a ledger. -/
structure Holds (archive : Archive) (ledger : Ledger) : Prop where
  players : archive.players.map Row.cells = ledger.playerList.map cellsOfPlayer
  contracts : archive.contracts.map Row.cells = ledger.contractList.map cellsOfContract
  payouts : archive.payouts.map Row.cells = ledger.payoutList.map cellsOfPayout
  selected : archive.selected? = some ledger.selected

theorem load_of_holds (wellFormed : ledger.WellFormed) (holds : archive.Holds ledger)
    (now : Instant) : archive.load? now = some ledger.wholeSeconds := by
  have players : archive.players.mapM playerOfRow = some (ledger.playerList.map id) :=
    mapM_ofRow (fun _ _ => playerOfRow_cells) holds.players
  have contracts : archive.contracts.mapM (contractOfRow now) = some (ledger.contractList.map
      fun contract => (.ofInt contract.createdAt.seconds, contract.wholeSecond)) :=
    mapM_ofRow (fun _ _ => contractOfRow_cells now) holds.contracts
  have payouts : archive.payouts.mapM (payoutOfRow now) =
      some (ledger.payoutList.map Payout.wholeSecond) :=
    mapM_ofRow (fun _ _ => payoutOfRow_cells now) holds.payouts
  simp only [load?, playerList?, contractList?, payoutList?, players, contracts, payouts,
    holds.selected, List.map_id, Option.bind_eq_bind, Option.bind_some, Option.pure_def]
  refine congrArg some (Ledger.restore_eq wellFormed.wholeSeconds ?_ ?_ ?_)
  · exact List.mergeSort_perm _ _
  · refine ((List.mergeSort_perm _ _).map _).trans ?_
    rw [List.map_map]
    change (ledger.contractList.map Contract.wholeSecond).Perm
      (ledger.contracts.map Contract.wholeSecond).values
    rw [Directory.values_map]
    exact (List.mergeSort_perm _ _).map _
  · refine (List.mergeSort_perm _ _).trans ?_
    change (ledger.payouts.values.map Payout.wholeSecond).Perm
      (ledger.payouts.map Payout.wholeSecond).values
    rw [Directory.values_map]

/-! ### Keeping -/

theorem fit?_player (player : Player) :
    archive.fit? .players (cellsOfPlayer player) = some (cellsOfPlayer player) := rfl

theorem fit?_contract (contract : Contract) :
    archive.fit? .contracts (cellsOfContract contract) = some (cellsOfContract contract) := rfl

/-- A payout is admitted once its contract is there. -/
theorem fit?_payout {payout : Payout}
    (backed : archive.hasKey .contracts (.text payout.contract.text) = true) :
    archive.fit? .payouts (cellsOfPayout payout) = some (cellsOfPayout payout) := by
  change (if (true && (false || archive.hasKey .contracts (.text payout.contract.text))) = true
    then _ else none) = _
  rw [backed]
  rfl

theorem hasKey_contract {contract : Contract} {contracts : List Contract}
    (cells : archive.contracts.map Row.cells = contracts.map cellsOfContract)
    (member : contract ∈ contracts) :
    archive.hasKey .contracts (.text contract.id.text) = true := by
  have kept : cellsOfContract contract ∈ archive.contracts.map Row.cells :=
    cells ▸ List.mem_map_of_mem member
  obtain ⟨row, held, same⟩ := List.mem_map.mp kept
  have key : Row.key row = .text contract.id.text := by
    rw [Row.key, same]
    rfl
  have found :
      (archive.rows .contracts).any (fun row => Row.key row == .text contract.id.text) = true :=
    List.any_eq_true.mpr ⟨row, held, by simp [key]⟩
  rw [hasKey, found]
  rfl

theorem nodup_keyCells {κ α : Type} [Key κ] {d : Directory κ α} {key : α → κ}
    {cellsOf : α → List Cell} (keyed : ∀ {k a}, d.get? k = some a → key a = k)
    (keyCell : ∀ a, Cell.keyOf (cellsOf a) = .text (Key.text (key a))) {values : List α}
    (same : values.Perm d.values) : (values.map fun a => Cell.keyOf (cellsOf a)).Nodup := by
  have cells : values.map (fun a => Cell.keyOf (cellsOf a)) =
      (values.map key).map fun k => .text (Key.text k) := by
    simp [keyCell, Function.comp_def]
  rw [cells]
  refine List.Nodup.map ?_ ((same.map key).nodup_iff.mpr (Directory.nodup_keys keyed))
  intro a b equal
  exact Key.text_injective (Cell.text.inj equal)

def cellsOfSelection (id : PlayerId) : List Cell := [selectedKey, .text id.text]

/-- Among other settings, the one of the selection is what is read back. -/
theorem selected?_of_settings {others rows : List Row} {selected : Option PlayerId}
    (free : ∀ row ∈ others, Row.key row ≠ selectedKey)
    (settings : archive.settings = others ++ rows)
    (cells : rows.map Row.cells = (selected.map cellsOfSelection).toList) :
    archive.selected? = some selected := by
  have passed : others.find? (fun row => Row.key row == selectedKey) = none :=
    List.find?_eq_none.mpr fun row member => by simpa using free row member
  rw [selected?, settings, List.find?_append, passed, Option.none_or]
  cases selected with
  | none =>
    cases List.map_eq_nil_iff.mp cells
    rfl
  | some id =>
    obtain ⟨row, rest, rfl, noted, empty⟩ := List.map_eq_cons_iff.mp cells
    cases List.map_eq_nil_iff.mp empty
    have key : Row.key row = selectedKey := by
      rw [Row.key, noted]
      rfl
    rw [List.find?_cons_of_pos (by simp [key]), Option.map_some, noted]
    rfl

theorem insertRow_selected {id : PlayerId}
    (free : ∀ row ∈ archive.settings, Row.key row ≠ selectedKey) :
    archive.insertRow .settings none (cellsOfSelection id) =
      some { archive with settings := archive.settings ++
        [⟨Row.nextNumber archive.settings, cellsOfSelection id⟩] } := by
  have unused : archive.hasKey .settings selectedKey = false := by
    rw [hasKey, Bool.and_eq_false_iff]
    refine Or.inr (List.any_eq_false.mpr fun row member => ?_)
    simpa using free row member
  have fits : archive.fit? .settings (cellsOfSelection id) = some (cellsOfSelection id) := rfl
  have numbered : archive.numberFor? .settings none =
      some (Row.nextNumber archive.settings) := rfl
  have key : Cell.keyOf (cellsOfSelection id) = selectedKey := rfl
  rw [insertRow, fits, numbered]
  simp [key, unused, withRows, rows]

/-- The settings that are left when a ledger is kept say nothing about a selection. -/
theorem key_of_others {row : Row}
    (member : row ∈ archive.settings.filter fun row => Row.key row != selectedKey) :
    Row.key row ≠ selectedKey := by
  simpa using (List.mem_filter.mp member).2

/-! The keys of a ledger's rows are distinct in each table. -/

theorem nodup_playerCells (wellFormed : ledger.WellFormed) :
    (ledger.playerList.map fun player => Cell.keyOf (cellsOfPlayer player)).Nodup := by
  have keyed : ∀ {id player}, ledger.players.get? id = some player → player.id = id :=
    wellFormed.player_keyed
  exact nodup_keyCells keyed (fun _ => rfl) (List.Perm.refl _)

theorem nodup_contractCells (wellFormed : ledger.WellFormed) :
    (ledger.contractList.map fun contract => Cell.keyOf (cellsOfContract contract)).Nodup := by
  have keyed : ∀ {id contract}, ledger.contracts.get? id = some contract → contract.id = id :=
    wellFormed.contract_keyed
  exact nodup_keyCells keyed (fun _ => rfl) ledger.perm_contractList

theorem nodup_payoutCells (wellFormed : ledger.WellFormed) :
    (ledger.payoutList.map fun payout => Cell.keyOf (cellsOfPayout payout)).Nodup := by
  have keyed : ∀ {id payout}, ledger.payouts.get? id = some payout → payout.contract = id :=
    wellFormed.payout_keyed
  exact nodup_keyCells keyed (fun _ => rfl) (List.Perm.refl _)

/-- The rows of a ledger's entries, put into an archive without any. -/
theorem put_entries (wellFormed : ledger.WellFormed) (settings : List Row) :
    ∃ first second kept : Archive,
      ledger.playerList.foldlM (fun a p => a.putRow .players (cellsOfPlayer p))
        ({ settings } : Archive) = some first ∧
      ledger.contractList.foldlM (fun a c => a.putRow .contracts (cellsOfContract c)) first =
        some second ∧
      ledger.payoutList.foldlM (fun a p => a.putRow .payouts (cellsOfPayout p)) second =
        some kept ∧
      kept.settings = settings ∧
      kept.players.map Row.cells = ledger.playerList.map cellsOfPlayer ∧
      kept.contracts.map Row.cells = ledger.contractList.map cellsOfContract ∧
      kept.payouts.map Row.cells = ledger.payoutList.map cellsOfPayout := by
  let start : Archive := { settings }
  obtain ⟨players, putPlayers, playerCells⟩ :=
    foldlM_putRow (fun player _ => fit?_player player) (nodup_playerCells wellFormed)
      (fun row member => nomatch (show row ∈ start.rows .players from member))
  let second := start.withRows .players players
  obtain ⟨contracts, putContracts, contractCells⟩ :=
    foldlM_putRow (fun contract _ => fit?_contract contract) (nodup_contractCells wellFormed)
      (fun row member => nomatch (show row ∈ second.rows .contracts from member))
  let third := second.withRows .contracts contracts
  have fits : ∀ payout ∈ ledger.payoutList,
      third.fit? .payouts (cellsOfPayout payout) = some (cellsOfPayout payout) := by
    intro payout member
    obtain ⟨contract, listed, same⟩ := wellFormed.contract_of_payout member
    exact fit?_payout (same ▸ hasKey_contract contractCells listed)
  obtain ⟨payouts, putPayouts, payoutCells⟩ :=
    foldlM_putRow fits (nodup_payoutCells wellFormed)
      (fun row member => nomatch (show row ∈ third.rows .payouts from member))
  exact ⟨_, _, _, putPlayers, putContracts, putPayouts, rfl, playerCells, contractCells,
    payoutCells⟩

/-- What a ledger leaves in an archive: its rows, and the settings that are not its own. -/
theorem keep_rows (wellFormed : ledger.WellFormed) (archive : Archive) :
    ∃ (kept : Archive) (noted : List Row), archive.keep? ledger = some kept ∧
      kept.players.map Row.cells = ledger.playerList.map cellsOfPlayer ∧
      kept.contracts.map Row.cells = ledger.contractList.map cellsOfContract ∧
      kept.payouts.map Row.cells = ledger.payoutList.map cellsOfPayout ∧
      kept.settings =
        (archive.settings.filter fun row => Row.key row != selectedKey) ++ noted ∧
      noted.map Row.cells = (ledger.selected.map cellsOfSelection).toList := by
  let others := archive.settings.filter fun row => Row.key row != selectedKey
  obtain ⟨first, second, kept, putPlayers, putContracts, putPayouts, settings, players, contracts,
    payouts⟩ := put_entries wellFormed others
  cases selected : ledger.selected with
  | none =>
    have keeps : archive.keep? ledger = some kept := by
      simp only [keep?, others, putPlayers, putContracts, putPayouts, selected,
        Option.bind_eq_bind, Option.bind_some, Option.pure_def]
    exact ⟨kept, [], keeps, players, contracts, payouts, by rw [settings, List.append_nil], rfl⟩
  | some id =>
    have free : ∀ row ∈ kept.settings, Row.key row ≠ selectedKey := fun row member =>
      key_of_others (settings ▸ member)
    have keeps : archive.keep? ledger = kept.insertRow .settings none (cellsOfSelection id) := by
      simp only [keep?, others, putPlayers, putContracts, putPayouts, selected,
        Option.bind_eq_bind, Option.bind_some]
      rfl
    exact ⟨_, _, keeps.trans (insertRow_selected free), players, contracts, payouts,
      congrArg (· ++ _) settings, rfl⟩

theorem keep_holds (wellFormed : ledger.WellFormed) (archive : Archive) :
    ∃ kept, archive.keep? ledger = some kept ∧ kept.Holds ledger := by
  obtain ⟨kept, noted, keeps, players, contracts, payouts, settings, cells⟩ :=
    keep_rows wellFormed archive
  exact ⟨kept, keeps, players, contracts, payouts,
    selected?_of_settings (fun _ => key_of_others) settings cells⟩

/-- Nothing is lost between the ledger and the archive but fractions of a second. -/
theorem keep_load (wellFormed : ledger.WellFormed) (archive : Archive) :
    ∃ kept, archive.keep? ledger = some kept ∧
      ∀ now, kept.load? now = some ledger.wholeSeconds := by
  obtain ⟨kept, keeps, holds⟩ := keep_holds wellFormed archive
  exact ⟨kept, keeps, load_of_holds wellFormed holds⟩

end Archive

end ArbitratedEscrow
