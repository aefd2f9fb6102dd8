import ArbitratedEscrow.Error
import ArbitratedEscrow.Lifecycle.View

/-!
# The ledger

The ledger holds players, contracts and payouts under their identifiers, with at
most one payout for a contract, and the player who is selected. Player names are
unique among players that are added, a payout is added only to a contract that
is there, and a contract that is removed takes its payout along. An operation
that fails leaves the ledger as it is.
-/

namespace ArbitratedEscrow

structure Ledger where
  players : Directory PlayerId Player
  contracts : Directory ContractId Contract
  payouts : Directory ContractId Payout
  selected : Option PlayerId
deriving DecidableEq

namespace Ledger

def empty : Ledger := ⟨.empty, .empty, .empty, none⟩

instance : Inhabited Ledger := ⟨empty⟩

/-! ### Reading -/

def player? (ledger : Ledger) (id : PlayerId) : Option Player := ledger.players.get? id

def contract? (ledger : Ledger) (id : ContractId) : Option Contract := ledger.contracts.get? id

def payout? (ledger : Ledger) (id : ContractId) : Option Payout := ledger.payouts.get? id

/-- The first player with a name, in the order of identifiers. -/
def playerNamed? (ledger : Ledger) (name : String) : Option Player :=
  ledger.players.values.find? fun player => player.name == name

/-- Contracts and payouts as the statuses look them up. -/
def lookup (ledger : Ledger) : Lookup := ⟨ledger.contract?, ledger.payout?⟩

def playerList (ledger : Ledger) : List Player := ledger.players.values

/-- All contracts, oldest first, those of one instant in the order of their identifiers. -/
def contractList (ledger : Ledger) : List Contract :=
  ledger.contracts.values.mergeSort fun a b => a.createdAt.notAfter b.createdAt

def payoutList (ledger : Ledger) : List Payout := ledger.payouts.values

/-! ### Players -/

/-- Adds a player, or overwrites the one with the same identifier. -/
def addPlayer (ledger : Ledger) (player : Player) : Except EscrowError Ledger :=
  if ledger.players.values.any fun p => p.name == player.name && p.id != player.id then
    .error (.playerExists player.name)
  else .ok { ledger with players := ledger.players.insert player.id player }

/-- Notes whether the local wallet holds a player's keys. -/
def setMine (ledger : Ledger) (id : PlayerId) (mine : Bool) : Except EscrowError Ledger :=
  match ledger.player? id with
  | none => .error (.playerNotFound id)
  | some player =>
    .ok { ledger with players := ledger.players.insert id { player with mine } }

/-- Removes a player, who is then no longer selected. -/
def removePlayer (ledger : Ledger) (id : PlayerId) : Ledger :=
  { ledger with
    players := ledger.players.erase id
    selected := if ledger.selected = some id then none else ledger.selected }

def select (ledger : Ledger) (id : PlayerId) : Except EscrowError Ledger :=
  if ledger.players.contains id then .ok { ledger with selected := some id }
  else .error (.playerNotFound id)

/-! ### Contracts -/

/-- Adds a contract, or overwrites the one with the same identifier. -/
def addContract (ledger : Ledger) (contract : Contract) : Ledger :=
  { ledger with contracts := ledger.contracts.insert contract.id contract }

def updateContract (ledger : Ledger) (id : ContractId) (patch : Contract.Patch) :
    Except EscrowError (Contract × Ledger) :=
  match ledger.contract? id with
  | none => .error (.contractNotFound id)
  | some contract =>
    let patched := contract.apply patch
    .ok (patched, { ledger with contracts := ledger.contracts.insert id patched })

/-- Removes a contract together with its payout. -/
def removeContract (ledger : Ledger) (id : ContractId) : Ledger :=
  { ledger with contracts := ledger.contracts.erase id, payouts := ledger.payouts.erase id }

/-! ### Payouts -/

/-- Adds a payout to a contract that has none. -/
def addPayout (ledger : Ledger) (payout : Payout) : Except EscrowError Ledger :=
  if !ledger.contracts.contains payout.contract then .error (.contractNotFound payout.contract)
  else if ledger.payouts.contains payout.contract then .error (.payoutExists payout.contract)
  else .ok { ledger with payouts := ledger.payouts.insert payout.contract payout }

def updatePayout (ledger : Ledger) (id : ContractId) (patch : Payout.Patch) :
    Except EscrowError (Payout × Ledger) :=
  match ledger.payout? id with
  | none => .error (.payoutNotFound id)
  | some payout =>
    let patched := payout.apply patch
    .ok (patched, { ledger with payouts := ledger.payouts.insert id patched })

def removePayout (ledger : Ledger) (id : ContractId) : Ledger :=
  { ledger with payouts := ledger.payouts.erase id }

/-! ### Restoring -/

/--
The ledger of given entries. Of entries with one identifier the last counts, a
payout needs its contract, and the selected player has to be there.
-/
def restore (players : List Player) (contracts : List Contract) (payouts : List Payout)
    (selected : Option PlayerId) : Ledger :=
  let players := Directory.ofList Player.id players
  let contracts := Directory.ofList Contract.id contracts
  { players
    contracts
    payouts :=
      .ofList Payout.contract (payouts.filter fun payout => contracts.contains payout.contract)
    selected := selected.filter fun id => players.contains id }

end Ledger

end ArbitratedEscrow
