import ArbitratedEscrow.Proofs.Ledger.Lookup

/-!
# Well-formed ledgers

A ledger is well formed if everything stands under its own identifier, no two
players share a name, each payout has its contract, and the selected player is
there. The ledger's operations keep this up whatever they are given; identifiers
need not be fresh for it, and a contract may be overwritten by another one.
-/

namespace ArbitratedEscrow.Ledger

variable {ledger : Ledger}

structure WellFormed (ledger : Ledger) : Prop where
  player_keyed : ∀ {id player}, ledger.player? id = some player → player.id = id
  contract_keyed : ∀ {id contract}, ledger.contract? id = some contract → contract.id = id
  payout_keyed : ∀ {id payout}, ledger.payout? id = some payout → payout.contract = id
  names_distinct : ∀ {a b first second}, ledger.player? a = some first →
    ledger.player? b = some second → first.name = second.name → a = b
  payout_backed : ∀ {id payout}, ledger.payout? id = some payout →
    ∃ contract, ledger.contract? id = some contract
  selected_stored : ∀ {id}, ledger.selected = some id → ∃ player, ledger.player? id = some player

theorem wellFormed_empty : empty.WellFormed where
  player_keyed found := by cases found
  contract_keyed found := by cases found
  payout_keyed found := by cases found
  names_distinct found := by cases found
  payout_backed found := by cases found
  selected_stored found := by cases found

namespace WellFormed

theorem player?_of_playerNamed? (wellFormed : ledger.WellFormed) {name : String} {player : Player}
    (named : ledger.playerNamed? name = some player) : ledger.player? player.id = some player := by
  obtain ⟨_, id, found⟩ := playerNamed?_eq_some named
  rwa [wellFormed.player_keyed found]

/-! ### Players -/

theorem withPlayer (wellFormed : ledger.WellFormed) {player : Player}
    (unnamed : ∀ {id other}, ledger.player? id = some other → other.name = player.name →
      id = player.id) : (ledger.withPlayer player).WellFormed where
  player_keyed {id found} stored := by
    rw [player?_withPlayer] at stored
    split at stored
    · rename_i same
      exact Option.some.inj stored ▸ same
    · exact wellFormed.player_keyed stored
  contract_keyed := wellFormed.contract_keyed
  payout_keyed := wellFormed.payout_keyed
  names_distinct {a b first second} left right same := by
    rw [player?_withPlayer] at left right
    split at left <;> split at right
    · rename_i left_id right_id
      exact left_id.symm.trans right_id
    · rename_i left_id _
      exact left_id.symm.trans (unnamed right (Option.some.inj left ▸ same.symm)).symm
    · rename_i right_id
      exact (unnamed left (Option.some.inj right ▸ same)).trans right_id
    · exact wellFormed.names_distinct left right same
  payout_backed := wellFormed.payout_backed
  selected_stored {id} selected := by
    rw [player?_withPlayer]
    split
    · exact ⟨player, rfl⟩
    · exact wellFormed.selected_stored selected

theorem addPlayer (wellFormed : ledger.WellFormed) {player : Player} {after : Ledger}
    (added : ledger.addPlayer player = .ok after) : after.WellFormed := by
  rw [Ledger.addPlayer] at added
  split at added
  · cases added
  · rename_i unnamed
    cases added
    refine wellFormed.withPlayer fun {id other} stored same => ?_
    by_contra different
    refine unnamed (List.any_eq_true.mpr ⟨other, Directory.mem_values_iff.mpr ⟨id, stored⟩, ?_⟩)
    have keyed : other.id ≠ player.id := wellFormed.player_keyed stored ▸ different
    simp [same, keyed]

theorem setMine (wellFormed : ledger.WellFormed) {id : PlayerId} {mine : Bool} {after : Ledger}
    (noted : ledger.setMine id mine = .ok after) : after.WellFormed := by
  rw [Ledger.setMine] at noted
  split at noted
  · cases noted
  · rename_i player stored
    cases noted
    have keyed := wellFormed.player_keyed stored
    subst keyed
    have kept : (ledger.withPlayer { player with mine }).WellFormed :=
      wellFormed.withPlayer fun other same => wellFormed.names_distinct other stored same
    exact kept

theorem removePlayer (wellFormed : ledger.WellFormed) (removed : PlayerId) :
    (ledger.removePlayer removed).WellFormed where
  player_keyed stored := by
    rw [player?_removePlayer] at stored
    split at stored
    · cases stored
    · exact wellFormed.player_keyed stored
  contract_keyed := wellFormed.contract_keyed
  payout_keyed := wellFormed.payout_keyed
  names_distinct left right same := by
    rw [player?_removePlayer] at left right
    split at left <;> split at right
    · cases left
    · cases left
    · cases right
    · exact wellFormed.names_distinct left right same
  payout_backed := wellFormed.payout_backed
  selected_stored {id} selected := by
    have selected : (if ledger.selected = some removed then none else ledger.selected) = some id :=
      selected
    rw [player?_removePlayer]
    split at selected
    · cases selected
    · rename_i another
      have different : removed ≠ id := fun same => another (same ▸ selected)
      rw [if_neg different]
      exact wellFormed.selected_stored selected

theorem select (wellFormed : ledger.WellFormed) {id : PlayerId} {after : Ledger}
    (chosen : ledger.select id = .ok after) : after.WellFormed := by
  rw [Ledger.select] at chosen
  split at chosen
  · rename_i stored
    cases chosen
    have chosen_stored : ∀ {chosen}, some id = some chosen →
        ∃ player, ledger.player? chosen = some player := by
      rintro chosen ⟨⟩
      exact Directory.contains_iff.mp stored
    exact { wellFormed with selected_stored := chosen_stored }
  · cases chosen

/-! ### Contracts -/

theorem addContract (wellFormed : ledger.WellFormed) (contract : Contract) :
    (ledger.addContract contract).WellFormed where
  player_keyed := wellFormed.player_keyed
  contract_keyed {id found} stored := by
    rw [contract?_addContract] at stored
    split at stored
    · rename_i same
      exact Option.some.inj stored ▸ same
    · exact wellFormed.contract_keyed stored
  payout_keyed := wellFormed.payout_keyed
  names_distinct := wellFormed.names_distinct
  payout_backed stored := by
    rw [contract?_addContract]
    split
    · exact ⟨contract, rfl⟩
    · exact wellFormed.payout_backed stored
  selected_stored := wellFormed.selected_stored

/-- A patch does not touch a contract's identifier. -/
theorem updateContract_eq (wellFormed : ledger.WellFormed) {id : ContractId} {contract : Contract}
    (stored : ledger.contract? id = some contract) (patch : Contract.Patch) :
    ledger.updateContract id patch =
      .ok (contract.apply patch, ledger.addContract (contract.apply patch)) := by
  have keyed := wellFormed.contract_keyed stored
  subst keyed
  simp only [updateContract, stored]
  rfl

theorem updateContract (wellFormed : ledger.WellFormed) {id : ContractId} {patch : Contract.Patch}
    {patched : Contract} {after : Ledger}
    (updated : ledger.updateContract id patch = .ok (patched, after)) : after.WellFormed := by
  cases stored : ledger.contract? id with
  | none => simp [Ledger.updateContract, stored] at updated
  | some contract =>
    rw [wellFormed.updateContract_eq stored] at updated
    cases updated
    exact wellFormed.addContract _

theorem removeContract (wellFormed : ledger.WellFormed) (removed : ContractId) :
    (ledger.removeContract removed).WellFormed where
  player_keyed := wellFormed.player_keyed
  contract_keyed stored := by
    rw [contract?_removeContract] at stored
    split at stored
    · cases stored
    · exact wellFormed.contract_keyed stored
  payout_keyed stored := by
    rw [payout?_removeContract] at stored
    split at stored
    · cases stored
    · exact wellFormed.payout_keyed stored
  names_distinct := wellFormed.names_distinct
  payout_backed stored := by
    rw [payout?_removeContract] at stored
    rw [contract?_removeContract]
    split at stored
    · cases stored
    · rename_i different
      rw [if_neg different]
      exact wellFormed.payout_backed stored
  selected_stored := wellFormed.selected_stored

/-! ### Payouts -/

theorem withPayout (wellFormed : ledger.WellFormed) {payout : Payout} {contract : Contract}
    (backed : ledger.contract? payout.contract = some contract) :
    (ledger.withPayout payout).WellFormed where
  player_keyed := wellFormed.player_keyed
  contract_keyed := wellFormed.contract_keyed
  payout_keyed stored := by
    rw [payout?_withPayout] at stored
    split at stored
    · rename_i same
      exact Option.some.inj stored ▸ same
    · exact wellFormed.payout_keyed stored
  names_distinct := wellFormed.names_distinct
  payout_backed stored := by
    rw [payout?_withPayout] at stored
    split at stored
    · rename_i same
      exact ⟨contract, same ▸ backed⟩
    · exact wellFormed.payout_backed stored
  selected_stored := wellFormed.selected_stored

theorem addPayout (wellFormed : ledger.WellFormed) {payout : Payout} {after : Ledger}
    (added : ledger.addPayout payout = .ok after) : after.WellFormed := by
  rw [Ledger.addPayout] at added
  split at added
  · cases added
  · rename_i backed
    split at added
    · cases added
    · cases added
      obtain ⟨contract, stored⟩ := Directory.contains_iff.mp (by simpa using backed)
      exact wellFormed.withPayout stored

theorem updatePayout_eq (wellFormed : ledger.WellFormed) {id : ContractId} {payout : Payout}
    (stored : ledger.payout? id = some payout) (patch : Payout.Patch) :
    ledger.updatePayout id patch =
      .ok (payout.apply patch, ledger.withPayout (payout.apply patch)) := by
  have keyed := wellFormed.payout_keyed stored
  subst keyed
  simp only [updatePayout, stored]
  rfl

theorem updatePayout (wellFormed : ledger.WellFormed) {id : ContractId} {patch : Payout.Patch}
    {patched : Payout} {after : Ledger}
    (updated : ledger.updatePayout id patch = .ok (patched, after)) : after.WellFormed := by
  cases stored : ledger.payout? id with
  | none => simp [Ledger.updatePayout, stored] at updated
  | some payout =>
    rw [wellFormed.updatePayout_eq stored] at updated
    cases updated
    obtain ⟨contract, backed⟩ := wellFormed.payout_backed stored
    have backed : ledger.contract? payout.contract = some contract :=
      (wellFormed.payout_keyed stored).symm ▸ backed
    exact wellFormed.withPayout backed

theorem removePayout (wellFormed : ledger.WellFormed) (removed : ContractId) :
    (ledger.removePayout removed).WellFormed where
  player_keyed := wellFormed.player_keyed
  contract_keyed := wellFormed.contract_keyed
  payout_keyed stored := by
    rw [payout?_removePayout] at stored
    split at stored
    · cases stored
    · exact wellFormed.payout_keyed stored
  names_distinct := wellFormed.names_distinct
  payout_backed stored := by
    rw [payout?_removePayout] at stored
    split at stored
    · cases stored
    · exact wellFormed.payout_backed stored
  selected_stored := wellFormed.selected_stored

/-- Contracts and payouts may be changed in place as long as they keep their identifiers. -/
theorem map (wellFormed : ledger.WellFormed) {f : Contract → Contract} {g : Payout → Payout}
    (sameId : ∀ contract, (f contract).id = contract.id)
    (sameContract : ∀ payout, (g payout).contract = payout.contract) :
    Ledger.WellFormed
      { ledger with contracts := ledger.contracts.map f, payouts := ledger.payouts.map g } where
  player_keyed := wellFormed.player_keyed
  contract_keyed {id found} changed := by
    have changed : (ledger.contracts.map f).get? id = some found := changed
    rw [Directory.get?_map] at changed
    obtain ⟨contract, stored, rfl⟩ := Option.map_eq_some_iff.mp changed
    exact (sameId contract).trans (wellFormed.contract_keyed stored)
  payout_keyed {id found} changed := by
    have changed : (ledger.payouts.map g).get? id = some found := changed
    rw [Directory.get?_map] at changed
    obtain ⟨payout, stored, rfl⟩ := Option.map_eq_some_iff.mp changed
    exact (sameContract payout).trans (wellFormed.payout_keyed stored)
  names_distinct := wellFormed.names_distinct
  payout_backed {id found} changed := by
    have changed : (ledger.payouts.map g).get? id = some found := changed
    rw [Directory.get?_map] at changed
    obtain ⟨payout, stored, _⟩ := Option.map_eq_some_iff.mp changed
    obtain ⟨contract, backed⟩ := wellFormed.payout_backed stored
    have backed : ledger.contracts.get? id = some contract := backed
    exact ⟨f contract, by rw [contract?, Directory.get?_map, backed]; rfl⟩
  selected_stored := wellFormed.selected_stored

end WellFormed

end ArbitratedEscrow.Ledger
