import ArbitratedEscrow.Lifecycle.Status
import ArbitratedEscrow.Payout

/-!
# How a player sees contracts and payouts

Statuses are derived, never stored: they follow from the contract or payout, the
player who looks, and a lookup of contracts and payouts by identifier. The
lookup need not be consistent. A payout's signatures are its own, but who may
sign it is told by its contract.
-/

namespace ArbitratedEscrow

/-- A source of contracts and of payouts by contract. -/
structure Lookup where
  contract : ContractId → Option Contract
  payout : ContractId → Option Payout

/-- Something that the parties of a contract sign. -/
inductive Signable where
  | contract (c : Contract)
  | payout (p : Payout)
deriving DecidableEq

namespace Signable

def signatures : Signable → Signatures
  | contract c => c.signatures
  | payout p => p.signatures

def contractId : Signable → ContractId
  | contract c => c.id
  | payout p => p.contract

/-- The contract that tells seats apart: a contract is its own, a payout's is looked up. -/
def parent (lookup : Lookup) : Signable → Option Contract
  | contract c => some c
  | payout p => lookup.contract p.contract

/-- Whether a player has a seat at the contract and that seat has signed. -/
def signedBy (lookup : Lookup) (signable : Signable) (player : PlayerId) : Bool :=
  match signable.parent lookup with
  | none => false
  | some held =>
    match held.seatOf player with
    | none => false
    | some seat => signable.signatures.of seat

def isUnsigned (signable : Signable) : Bool := signable.signatures.isBlank

end Signable

/--
How a player sees a payout. The first rule that applies counts: how far its
transaction has come; two of the three signatures, of which one is a player's;
a signature of the player who looks; one of the player across.
-/
def Payout.status (lookup : Lookup) (payout : Payout) (viewer : PlayerId) : PayoutStatus :=
  match payout.transaction with
  | .confirmed => .resolved
  | .broadcast => .broadcast
  | .unbroadcast =>
    let players := payout.signatures.playerCount
    let signedBy := (Signable.payout payout).signedBy lookup
    if players = 2 ∨ (players = 1 ∧ payout.signatures.arbiter) then .certified
    else if signedBy viewer then
      if payout.withToken then .weSignedWithToken else .weSigned
    else if ((lookup.contract payout.contract).bind (·.counterparty viewer)).any signedBy then
      .theySigned
    else if (Signable.payout payout).isUnsigned then .unsigned
    else .invalid

/--
How a player sees a contract. With all three signatures it is told by the
funding transaction and, once that is confirmed, by the payout. Before, it is
told by which players have signed; any other set of signatures is invalid.
-/
def Contract.status (lookup : Lookup) (contract : Contract) (viewer : PlayerId) :
    ContractStatus :=
  let signatures := contract.signatures
  if signatures.complete then
    match contract.funding with
    | .unbroadcast => .certified
    | .broadcast => .fundingBroadcast
    | .confirmed =>
      match lookup.payout contract.id with
      | some payout => .ofPayout (payout.status lookup viewer)
      | none => .live
  else if !signatures.arbiter && signatures.playerCount == 2 then .playersSigned
  else if !signatures.arbiter && signatures.playerCount == 1 then
    if (Signable.contract contract).signedBy lookup viewer then .signed else .received
  else if (Signable.contract contract).isUnsigned then .unsigned
  else .invalid

end ArbitratedEscrow
