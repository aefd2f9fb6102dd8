import ArbitratedEscrow.Json.Tree
import ArbitratedEscrow.Settings
import ArbitratedEscrow.Time.Rfc3339

/-!
# JSON forms

The JSON forms of what the ledger holds and of the settings: records with fixed
fields in a fixed order, identifiers as strings, amounts as integers, statuses
and actions by their names, instants in RFC 3339. For each form there is a
writer, `toJson`, and a reader, `ofTree?`.
-/

namespace ArbitratedEscrow

/-! ### Identifiers and instants -/

def PlayerId.toJson (id : PlayerId) : Json := .string id.text

def PlayerId.ofTree? (tree : Json.Tree) : Option PlayerId := tree.asString.map PlayerId.mk

def ContractId.toJson (id : ContractId) : Json := .string id.text

def ContractId.ofTree? (tree : Json.Tree) : Option ContractId := tree.asString.map ContractId.mk

def Instant.toJson (t : Instant) : Json := .string t.rfc3339

def Instant.ofTree? (tree : Json.Tree) : Option Instant := do
  Instant.read (← tree.asString).toList

/-! ### Names -/

def TxStatus.name : TxStatus → String
  | unbroadcast => "Unbroadcast"
  | broadcast => "Broadcast"
  | confirmed => "Confirmed"

def TxStatus.ofName? (name : String) : Option TxStatus :=
  if name = "Unbroadcast" then some unbroadcast
  else if name = "Broadcast" then some broadcast
  else if name = "Confirmed" then some confirmed
  else none

def TxStatus.toJson (status : TxStatus) : Json := .string status.name

def TxStatus.ofTree? (tree : Json.Tree) : Option TxStatus := tree.asName.bind TxStatus.ofName?

def ContractStatus.toJson (status : ContractStatus) : Json := .string status.name

def ContractStatus.ofTree? (tree : Json.Tree) : Option ContractStatus :=
  tree.asName.bind ContractStatus.ofName?

def PayoutStatus.toJson (status : PayoutStatus) : Json := .string status.name

def PayoutStatus.ofTree? (tree : Json.Tree) : Option PayoutStatus :=
  tree.asName.bind PayoutStatus.ofName?

def ContractAction.toJson (action : ContractAction) : Json := .string action.name

def ContractAction.ofTree? (tree : Json.Tree) : Option ContractAction :=
  tree.asName.bind ContractAction.ofName?

def Network.toJson (network : Network) : Json := .string network.name

def Network.ofTree? (tree : Json.Tree) : Option Network := tree.asName.bind Network.ofName?

/-! ### Records -/

def Signatures.toJson (signatures : Signatures) : Json :=
  .object
    [("player_one", .bool signatures.playerOne), ("player_two", .bool signatures.playerTwo),
      ("arbiter", .bool signatures.arbiter)]

def Signatures.ofTree? (tree : Json.Tree) : Option Signatures := do
  match ← tree.allFields ["player_one", "player_two", "arbiter"] with
  | [playerOne, playerTwo, arbiter] =>
    return ⟨← playerOne.asBool, ← playerTwo.asBool, ← arbiter.asBool⟩
  | _ => none

def Player.toJson (player : Player) : Json :=
  .object
    [("id", player.id.toJson), ("name", .string player.name),
      ("picture_url", .string player.picture), ("mine", .bool player.mine)]

def Player.ofTree? (tree : Json.Tree) : Option Player := do
  match ← tree.allFields ["id", "name", "picture_url", "mine"] with
  | [id, name, picture, mine] =>
    return ⟨← PlayerId.ofTree? id, ← name.asString, ← picture.asString, ← mine.asBool⟩
  | _ => none

def Contract.toJson (contract : Contract) : Json :=
  .object
    [("id", contract.id.toJson), ("player_one", contract.playerOne.toJson),
      ("player_two", contract.playerTwo.toJson), ("amount", .amount contract.amount),
      ("desc", .string contract.description), ("sigs", contract.signatures.toJson),
      ("funding_tx", contract.funding.toJson), ("created_at", contract.createdAt.toJson)]

def Contract.ofTree? (tree : Json.Tree) : Option Contract := do
  match ← tree.allFields
      ["id", "player_one", "player_two", "amount", "desc", "sigs", "funding_tx", "created_at"] with
  | [id, playerOne, playerTwo, amount, description, signatures, funding, createdAt] =>
    return {
      id := ← ContractId.ofTree? id
      playerOne := ← PlayerId.ofTree? playerOne
      playerTwo := ← PlayerId.ofTree? playerTwo
      amount := ← amount.asAmount
      description := ← description.asString
      signatures := ← Signatures.ofTree? signatures
      funding := ← TxStatus.ofTree? funding
      createdAt := ← Instant.ofTree? createdAt }
  | _ => none

def Payout.toJson (payout : Payout) : Json :=
  .object
    [("contract_id", payout.contract.toJson), ("p1_amount", .amount payout.amountOne),
      ("p2_amount", .amount payout.amountTwo), ("sigs", payout.signatures.toJson),
      ("payout_token", .bool payout.withToken), ("payout_tx", payout.transaction.toJson),
      ("created_at", payout.createdAt.toJson)]

def Payout.ofTree? (tree : Json.Tree) : Option Payout := do
  match ← tree.allFields
      ["contract_id", "p1_amount", "p2_amount", "sigs", "payout_token", "payout_tx",
        "created_at"] with
  | [contract, amountOne, amountTwo, signatures, withToken, transaction, createdAt] =>
    return {
      contract := ← ContractId.ofTree? contract
      amountOne := ← amountOne.asAmount
      amountTwo := ← amountTwo.asAmount
      signatures := ← Signatures.ofTree? signatures
      withToken := ← withToken.asBool
      transaction := ← TxStatus.ofTree? transaction
      createdAt := ← Instant.ofTree? createdAt }
  | _ => none

def Settings.toJson (settings : Settings) : Json :=
  .object
    [("network", settings.network.toJson), ("arbiter_url", .string settings.arbiterUrl),
      ("passphrase_min_length", .amount settings.passphraseMinLength),
      ("db_file", .string settings.databaseFile)]

def Settings.ofTree? (tree : Json.Tree) : Option Settings := do
  match ← tree.allFields ["network", "arbiter_url", "passphrase_min_length", "db_file"] with
  | [network, arbiterUrl, passphraseMinLength, databaseFile] =>
    return {
      network := ← Network.ofTree? network
      arbiterUrl := ← arbiterUrl.asString
      passphraseMinLength := ← passphraseMinLength.asAmount
      databaseFile := ← databaseFile.asString }
  | _ => none

/-- What a JSON text holds, if it is a JSON text that a reader accepts. -/
def Json.parseAs {α : Type} (read : Json.Tree → Option α) (text : String) :
    Except EscrowError α :=
  match (Json.Tree.parse text.toList).bind read with
  | some a => .ok a
  | none => .error .serialization

end ArbitratedEscrow
