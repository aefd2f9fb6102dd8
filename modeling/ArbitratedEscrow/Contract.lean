import ArbitratedEscrow.Player
import ArbitratedEscrow.Sha256
import ArbitratedEscrow.Signatures
import ArbitratedEscrow.Time.Instant

/-!
# Contracts

A contract puts up a pot between two players. Its identifier is the hash of its
terms and a random nonce. A `Contract.Patch` overwrites some of its fields and
leaves the others alone.
-/

namespace ArbitratedEscrow

structure ContractId where
  text : String
deriving Repr

instance : Key ContractId where
  text := ContractId.text
  text_injective := by
    rintro ⟨_⟩ ⟨_⟩ rfl
    rfl

instance : Inhabited ContractId := ⟨⟨""⟩⟩

namespace ContractId

/-- The bytes that an identifier is the hash of: both players, the pot in eight bytes, the nonce. -/
def preimage (playerOne playerTwo : PlayerId) (amount : Amount) (nonce : Uuid) : List UInt8 :=
  Text.utf8 playerOne.text ++ Text.utf8 playerTwo.text ++ Text.bigEndian 8 amount.toNat ++
    nonce.bytes

/-- The hash of terms and nonce in hexadecimal. -/
def ofTerms (playerOne playerTwo : PlayerId) (amount : Amount) (nonce : Uuid) : ContractId :=
  ⟨String.ofList (Text.hex (Sha256.digest (preimage playerOne playerTwo amount nonce)))⟩

end ContractId

structure Contract where
  id : ContractId
  playerOne : PlayerId
  playerTwo : PlayerId
  amount : Amount
  description : String
  signatures : Signatures
  funding : TxStatus
  createdAt : Instant
deriving DecidableEq

namespace Contract

/-- An unsigned contract with a fresh identifier. -/
def new (playerOne playerTwo : PlayerId) (amount : Amount) (description : String)
    (nonce : Uuid) (now : Instant) : Contract where
  id := .ofTerms playerOne playerTwo amount nonce
  playerOne := playerOne
  playerTwo := playerTwo
  amount := amount
  description := description
  signatures := .blank
  funding := .unbroadcast
  createdAt := now

/-- The seat of a player, seat one if both are the player's. -/
def seatOf (contract : Contract) (player : PlayerId) : Option Seat :=
  if contract.playerOne = player then some .one
  else if contract.playerTwo = player then some .two
  else none

def player (contract : Contract) : Seat → PlayerId
  | .one => contract.playerOne
  | .two => contract.playerTwo

/-- The player across from a player at the contract. -/
def counterparty (contract : Contract) (player : PlayerId) : Option PlayerId :=
  (contract.seatOf player).map fun seat => contract.player seat.other

structure Patch where
  description : Option String := none
  playerOneSigned : Option Bool := none
  playerTwoSigned : Option Bool := none
  arbiterSigned : Option Bool := none
  funding : Option TxStatus := none
deriving DecidableEq

def Patch.sign : Seat → Patch
  | .one => { playerOneSigned := some true }
  | .two => { playerTwoSigned := some true }

/-- A contract with the fields that a patch gives. -/
def apply (contract : Contract) (patch : Patch) : Contract :=
  { contract with
    description := patch.description.getD contract.description
    signatures :=
      { playerOne := patch.playerOneSigned.getD contract.signatures.playerOne
        playerTwo := patch.playerTwoSigned.getD contract.signatures.playerTwo
        arbiter := patch.arbiterSigned.getD contract.signatures.arbiter }
    funding := patch.funding.getD contract.funding }

end Contract

end ArbitratedEscrow
