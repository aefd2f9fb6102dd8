import ArbitratedEscrow.Contract

/-!
# Payouts

A payout proposes how to split the pot of a contract. It is known by its
contract, has signatures of its own, and remembers whether a player signed with
an arbitration token. A `Payout.Patch` overwrites some of its fields.
-/

namespace ArbitratedEscrow

structure Payout where
  contract : ContractId
  amountOne : Amount
  amountTwo : Amount
  signatures : Signatures
  withToken : Bool
  transaction : TxStatus
  createdAt : Instant
deriving DecidableEq

namespace Payout

def new (contract : ContractId) (amountOne amountTwo : Amount) (now : Instant) : Payout where
  contract := contract
  amountOne := amountOne
  amountTwo := amountTwo
  signatures := .blank
  withToken := false
  transaction := .unbroadcast
  createdAt := now

structure Patch where
  playerOneSigned : Option Bool := none
  playerTwoSigned : Option Bool := none
  arbiterSigned : Option Bool := none
  withToken : Option Bool := none
  transaction : Option TxStatus := none
deriving DecidableEq

def Patch.sign : Seat → Patch
  | .one => { playerOneSigned := some true }
  | .two => { playerTwoSigned := some true }

def apply (payout : Payout) (patch : Patch) : Payout :=
  { payout with
    signatures :=
      { playerOne := patch.playerOneSigned.getD payout.signatures.playerOne
        playerTwo := patch.playerTwoSigned.getD payout.signatures.playerTwo
        arbiter := patch.arbiterSigned.getD payout.signatures.arbiter }
    withToken := patch.withToken.getD payout.withToken
    transaction := patch.transaction.getD payout.transaction }

end Payout

end ArbitratedEscrow
