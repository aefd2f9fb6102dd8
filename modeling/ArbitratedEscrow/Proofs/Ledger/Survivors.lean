import ArbitratedEscrow.Operation.Basic
import ArbitratedEscrow.Proofs.Archive.RoundTrip
import ArbitratedEscrow.Proofs.Lifecycle.Locality

/-!
# What comes through a restart

A restart cuts the instants of the contracts and payouts that are there to whole
seconds. `Survivors` tells which entries have been through one, and
`Survivors.round` makes the ledger that restarts leave out of the ledger without
them. Nothing that is read off a ledger depends on those instants, and every
change of a ledger is the same on both sides.
-/

namespace ArbitratedEscrow

/-- Which contracts and payouts have come through a restart. -/
structure Survivors where
  contract : ContractId → Bool
  payout : ContractId → Bool

namespace Survivors

def empty : Survivors := ⟨fun _ => false, fun _ => false⟩

def all (ledger : Ledger) : Survivors := ⟨ledger.contracts.contains, ledger.payouts.contains⟩

def withoutContract (survivors : Survivors) (id : ContractId) : Survivors :=
  { survivors with contract := fun other => survivors.contract other && other != id }

def withoutPayout (survivors : Survivors) (id : ContractId) : Survivors :=
  { survivors with payout := fun other => survivors.payout other && other != id }

def roundContract (survivors : Survivors) (contract : Contract) : Contract :=
  { contract with createdAt :=
      if survivors.contract contract.id then contract.createdAt.wholeSecond
      else contract.createdAt }

def roundPayout (survivors : Survivors) (payout : Payout) : Payout :=
  { payout with createdAt :=
      if survivors.payout payout.contract then payout.createdAt.wholeSecond
      else payout.createdAt }

/-- A ledger with the instants of the survivors cut to whole seconds. -/
def round (survivors : Survivors) (ledger : Ledger) : Ledger :=
  { ledger with
    contracts := ledger.contracts.map survivors.roundContract
    payouts := ledger.payouts.map survivors.roundPayout }

def roundAnswer (survivors : Survivors) : Answer → Answer
  | .contract contract => .contract (survivors.roundContract contract)
  | .payout payout => .payout (survivors.roundPayout payout)
  | answer => answer

variable (survivors : Survivors) {ledger : Ledger} {id : ContractId}

theorem contract?_round :
    (survivors.round ledger).contract? id = (ledger.contract? id).map survivors.roundContract :=
  Directory.get?_map _ _ _

theorem payout?_round :
    (survivors.round ledger).payout? id = (ledger.payout? id).map survivors.roundPayout :=
  Directory.get?_map _ _ _

theorem wellFormed_round (wellFormed : ledger.WellFormed) : (survivors.round ledger).WellFormed :=
  wellFormed.map (fun _ => rfl) (fun _ => rfl)

/-! ### Restarts -/

theorem all_contract {contract : Contract} (stored : ledger.contract? id = some contract) :
    (all (survivors.round ledger)).contract id = true :=
  Directory.contains_iff.mpr ⟨_, survivors.contract?_round.trans (congrArg _ stored)⟩

theorem all_payout {payout : Payout} (stored : ledger.payout? id = some payout) :
    (all (survivors.round ledger)).payout id = true :=
  Directory.contains_iff.mpr ⟨_, survivors.payout?_round.trans (congrArg _ stored)⟩

/-- It makes no difference to a restart what has come through one before. -/
theorem wholeSeconds_round (wellFormed : ledger.WellFormed) :
    (survivors.round ledger).wholeSeconds = (all (survivors.round ledger)).round ledger := by
  have contracts : (ledger.contracts.map survivors.roundContract).map Contract.wholeSecond =
      ledger.contracts.map (all (survivors.round ledger)).roundContract := by
    rw [Directory.map_map]
    refine Directory.map_congr fun id contract stored => ?_
    have there : (all (survivors.round ledger)).contract contract.id = true :=
      survivors.all_contract (wellFormed.contract_keyed stored ▸ stored)
    simp only [Function.comp_apply, roundContract, Contract.wholeSecond, there, if_true]
    split <;> rfl
  have payouts : (ledger.payouts.map survivors.roundPayout).map Payout.wholeSecond =
      ledger.payouts.map (all (survivors.round ledger)).roundPayout := by
    rw [Directory.map_map]
    refine Directory.map_congr fun id payout stored => ?_
    have there : (all (survivors.round ledger)).payout payout.contract = true :=
      survivors.all_payout (wellFormed.payout_keyed stored ▸ stored)
    simp only [Function.comp_apply, roundPayout, Payout.wholeSecond, there, if_true]
    split <;> rfl
  exact congrArg₂ (fun contracts payouts => ({ ledger with contracts, payouts } : Ledger))
    contracts payouts

/-! ### Reading -/

theorem sameParties_round (id : ContractId) :
    (survivors.round ledger).lookup.SameParties ledger.lookup id id := by
  change ((survivors.round ledger).contract? id).map _ = (ledger.contract? id).map _
  rw [contract?_round, Option.map_map]
  rfl

theorem payoutStatus_round (payout : Payout) (viewer : PlayerId) :
    (survivors.roundPayout payout).status (survivors.round ledger).lookup viewer =
      payout.status ledger.lookup viewer :=
  Payout.status_congr rfl rfl rfl (survivors.sameParties_round payout.contract)

theorem contractStatus_round (contract : Contract) (viewer : PlayerId) :
    (survivors.roundContract contract).status (survivors.round ledger).lookup viewer =
      contract.status ledger.lookup viewer := by
  refine Contract.status_congr rfl rfl rfl ?_
  change ((survivors.round ledger).payout? contract.id).map _ = (ledger.payout? contract.id).map _
  rw [payout?_round, Option.map_map]
  exact congrArg (Option.map · _) (funext fun payout => survivors.payoutStatus_round payout viewer)

theorem theContract_round : (survivors.round ledger).theContract id =
    (ledger.theContract id).map survivors.roundContract := by
  rw [Ledger.theContract, contract?_round, Ledger.theContract]
  cases ledger.contract? id <;> rfl

theorem thePayout_round : (survivors.round ledger).thePayout id =
    (ledger.thePayout id).map survivors.roundPayout := by
  rw [Ledger.thePayout, payout?_round, Ledger.thePayout]
  cases ledger.payout? id <;> rfl

theorem theStatus_round : (survivors.round ledger).theStatus id = ledger.theStatus id := by
  rw [Ledger.theStatus, theContract_round, Ledger.theStatus]
  refine congrArg (ledger.theLocalPlayer >>= ·) (funext fun viewer => ?_)
  cases ledger.theContract id with
  | error fault => rfl
  | ok contract => exact congrArg Except.ok (survivors.contractStatus_round contract viewer)

theorem thePayoutStatus_round :
    (survivors.round ledger).thePayoutStatus id = ledger.thePayoutStatus id := by
  rw [Ledger.thePayoutStatus, thePayout_round, Ledger.thePayoutStatus]
  refine congrArg (ledger.theLocalPlayer >>= ·) (funext fun viewer => ?_)
  cases ledger.thePayout id with
  | error fault => rfl
  | ok payout => exact congrArg Except.ok (survivors.payoutStatus_round payout viewer)

theorem requireStatus_round (allowed : List ContractStatus) :
    (survivors.round ledger).requireStatus id allowed = ledger.requireStatus id allowed := by
  rw [Ledger.requireStatus, theStatus_round, Ledger.requireStatus]

/-! ### Changes -/

theorem round_addContract (contract : Contract) : survivors.round (ledger.addContract contract) =
    (survivors.round ledger).addContract (survivors.roundContract contract) :=
  congrArg (fun contracts => ({ survivors.round ledger with contracts } : Ledger))
    (Directory.map_insert _ _ _ _)

theorem round_withPayout (payout : Payout) : survivors.round (ledger.withPayout payout) =
    (survivors.round ledger).withPayout (survivors.roundPayout payout) :=
  congrArg (fun payouts => ({ survivors.round ledger with payouts } : Ledger))
    (Directory.map_insert _ _ _ _)

theorem round_removePayout :
    survivors.round (ledger.removePayout id) = (survivors.round ledger).removePayout id :=
  congrArg (fun payouts => ({ survivors.round ledger with payouts } : Ledger))
    (Directory.map_erase _ _ _)

theorem round_removeContract :
    survivors.round (ledger.removeContract id) = (survivors.round ledger).removeContract id :=
  congrArg₂ (fun contracts payouts => ({ ledger with contracts, payouts } : Ledger))
    (Directory.map_erase _ _ _) (Directory.map_erase _ _ _)

theorem roundContract_new (contract : Contract) :
    (survivors.withoutContract contract.id).roundContract contract = contract := by
  simp [roundContract, withoutContract]

theorem roundPayout_new (payout : Payout) :
    (survivors.withoutPayout payout.contract).roundPayout payout = payout := by
  simp [roundPayout, withoutPayout]

/-- A contract that is filed keeps its own instant, whatever was there before. -/
theorem round_fileContract (wellFormed : ledger.WellFormed) (contract : Contract) :
    (survivors.withoutContract contract.id).round (ledger.addContract contract) =
      (survivors.round ledger).addContract contract := by
  rw [round_addContract, roundContract_new]
  refine congrArg (fun contracts => ({ survivors.round ledger with contracts } : Ledger)) ?_
  refine Directory.insert_congr _ fun id different => ?_
  change ((survivors.withoutContract contract.id).round ledger).contract? id = Ledger.contract? _ id
  rw [contract?_round, contract?_round]
  refine Option.map_congr fun other stored => ?_
  have keyed : other.id ≠ contract.id := wellFormed.contract_keyed stored ▸ Ne.symm different
  simp [roundContract, withoutContract, keyed]

/-- A payout that is proposed keeps its own instant, whatever was there before. -/
theorem round_filePayout (wellFormed : ledger.WellFormed) (payout : Payout) :
    (survivors.withoutPayout payout.contract).round (ledger.withPayout payout) =
      (survivors.round ledger).withPayout payout := by
  rw [round_withPayout, roundPayout_new]
  refine congrArg (fun payouts => ({ survivors.round ledger with payouts } : Ledger)) ?_
  refine Directory.insert_congr _ fun id different => ?_
  change ((survivors.withoutPayout payout.contract).round ledger).payout? id = Ledger.payout? _ id
  rw [payout?_round, payout?_round]
  refine Option.map_congr fun other stored => ?_
  have keyed : other.contract ≠ payout.contract :=
    wellFormed.payout_keyed stored ▸ Ne.symm different
  simp [roundPayout, withoutPayout, keyed]

end Survivors

end ArbitratedEscrow
