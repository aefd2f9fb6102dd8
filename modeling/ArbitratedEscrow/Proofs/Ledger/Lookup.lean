import ArbitratedEscrow.Ledger.Basic
import ArbitratedEscrow.Proofs.Directory

/-!
# Lookups in a changed ledger

What each change of a ledger does to its lookups. The lookups that are not
listed are not touched by the change: there both sides are the same by
definition.
-/

namespace ArbitratedEscrow.Ledger

variable {ledger : Ledger}

/-- The ledger with a player under the player's own identifier. -/
def withPlayer (ledger : Ledger) (player : Player) : Ledger :=
  { ledger with players := ledger.players.insert player.id player }

def withPayout (ledger : Ledger) (payout : Payout) : Ledger :=
  { ledger with payouts := ledger.payouts.insert payout.contract payout }

def withSelected (ledger : Ledger) (selected : Option PlayerId) : Ledger :=
  { ledger with selected }

theorem player?_withPlayer (ledger : Ledger) (player : Player) (id : PlayerId) :
    (ledger.withPlayer player).player? id =
      if player.id = id then some player else ledger.player? id :=
  Directory.get?_insert _ _ _ _

theorem player?_removePlayer (ledger : Ledger) (removed id : PlayerId) :
    (ledger.removePlayer removed).player? id =
      if removed = id then none else ledger.player? id :=
  Directory.get?_erase _ _ _

theorem contract?_addContract (ledger : Ledger) (contract : Contract) (id : ContractId) :
    (ledger.addContract contract).contract? id =
      if contract.id = id then some contract else ledger.contract? id :=
  Directory.get?_insert _ _ _ _

theorem contract?_removeContract (ledger : Ledger) (removed id : ContractId) :
    (ledger.removeContract removed).contract? id =
      if removed = id then none else ledger.contract? id :=
  Directory.get?_erase _ _ _

theorem payout?_removeContract (ledger : Ledger) (removed id : ContractId) :
    (ledger.removeContract removed).payout? id =
      if removed = id then none else ledger.payout? id :=
  Directory.get?_erase _ _ _

theorem payout?_withPayout (ledger : Ledger) (payout : Payout) (id : ContractId) :
    (ledger.withPayout payout).payout? id =
      if payout.contract = id then some payout else ledger.payout? id :=
  Directory.get?_insert _ _ _ _

theorem payout?_removePayout (ledger : Ledger) (removed id : ContractId) :
    (ledger.removePayout removed).payout? id =
      if removed = id then none else ledger.payout? id :=
  Directory.get?_erase _ _ _

theorem withPayout_removePayout (ledger : Ledger) (payout : Payout) :
    (ledger.removePayout payout.contract).withPayout payout = ledger.withPayout payout := by
  rw [withPayout, removePayout, Directory.insert_erase, withPayout]

/-- A name leads to a player who is stored and bears it. -/
theorem playerNamed?_eq_some {name : String} {player : Player}
    (named : ledger.playerNamed? name = some player) :
    player.name = name ∧ ∃ id, ledger.player? id = some player :=
  ⟨by simpa using List.find?_some named,
    Directory.mem_values_iff.mp (List.mem_of_find?_eq_some named)⟩

theorem playerNamed?_eq_none {name : String} :
    ledger.playerNamed? name = none ↔
      ∀ id player, ledger.player? id = some player → player.name ≠ name := by
  rw [playerNamed?, List.find?_eq_none]
  constructor
  · intro unnamed id player found same
    exact unnamed player (Directory.mem_values_iff.mpr ⟨id, found⟩) (by simpa using same)
  · intro unnamed player member
    obtain ⟨id, found⟩ := Directory.mem_values_iff.mp member
    simpa using unnamed id player found

end ArbitratedEscrow.Ledger
