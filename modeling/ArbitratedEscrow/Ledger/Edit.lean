import ArbitratedEscrow.Ledger.Basic

/-!
# Edits of the ledger

The operations that change a ledger, as data, so that a history is a list of
edits. What an operation gives back is an `Answer`.
-/

namespace ArbitratedEscrow

inductive Answer where
  | done
  | nothing
  | player (player : Player)
  | contract (contract : Contract)
  | payout (payout : Payout)
  | playerId (id : PlayerId)
  | contractStatus (status : ContractStatus)
  | payoutStatus (status : PayoutStatus)
deriving DecidableEq

namespace Answer

def ofPlayer? (player : Option Player) : Answer := player.elim nothing .player

def ofContract? (contract : Option Contract) : Answer := contract.elim nothing .contract

def ofPayout? (payout : Option Payout) : Answer := payout.elim nothing .payout

end Answer

namespace Ledger

inductive Edit where
  | addPlayer (player : Player)
  | setMine (id : PlayerId) (mine : Bool)
  | removePlayer (id : PlayerId)
  | select (id : PlayerId)
  | addContract (contract : Contract)
  | updateContract (id : ContractId) (patch : Contract.Patch)
  | removeContract (id : ContractId)
  | addPayout (payout : Payout)
  | updatePayout (id : ContractId) (patch : Payout.Patch)
  | removePayout (id : ContractId)
deriving DecidableEq

def edit? (ledger : Ledger) : Edit → Except EscrowError (Answer × Ledger)
  | .addPlayer player => (ledger.addPlayer player).map (.done, ·)
  | .setMine id mine => (ledger.setMine id mine).map (.done, ·)
  | .removePlayer id => .ok (.ofPlayer? (ledger.player? id), ledger.removePlayer id)
  | .select id => (ledger.select id).map (.done, ·)
  | .addContract contract => .ok (.done, ledger.addContract contract)
  | .updateContract id patch =>
    (ledger.updateContract id patch).map fun (contract, ledger) => (.contract contract, ledger)
  | .removeContract id => .ok (.ofContract? (ledger.contract? id), ledger.removeContract id)
  | .addPayout payout => (ledger.addPayout payout).map (.done, ·)
  | .updatePayout id patch =>
    (ledger.updatePayout id patch).map fun (payout, ledger) => (.payout payout, ledger)
  | .removePayout id => .ok (.ofPayout? (ledger.payout? id), ledger.removePayout id)

/-- The ledger after an edit; an edit that fails changes nothing. -/
def edit (ledger : Ledger) (e : Edit) : Except EscrowError Answer × Ledger :=
  match ledger.edit? e with
  | .ok (answer, ledger) => (.ok answer, ledger)
  | .error fault => (.error fault, ledger)

end Ledger

end ArbitratedEscrow
