import ArbitratedEscrow.Binary64
import ArbitratedEscrow.Ledger.Resolve
import ArbitratedEscrow.Terminal.Table
import ArbitratedEscrow.Time.Rfc3339

/-!
# What is shown of a ledger

The texts in which players, contracts and errors are shown at the terminal.
-/

namespace ArbitratedEscrow

/-- An amount in bitcoins with eight decimals, by way of the double next to it. -/
def Amount.bitcoins (amount : Amount) : String :=
  match Binary64.nearest false amount.toNat 100000000 with
  | some x => String.ofList (x.fixed 8)
  | none => ""

def Amount.sats (amount : Amount) : String := Text.ofUInt64 amount ++ " sats"

/-- What is shown for an error, with a hint where there is one. -/
def EscrowError.report : EscrowError → String
  | .noPlayerSelected =>
    "Error: No local player selected\nUse 'escrow select <name>' to choose one\n"
  | .playerNotFound id =>
    "Error: Player '" ++ id.text ++ "' not found\nUse 'escrow player list' to see known players\n"
  | .invalidState fault =>
    "Error: Action not available: " ++ fault.reason ++
      "\nUse 'escrow status' to see what to do next\n"
  | fault => "Error: " ++ fault.message ++ "\n"

namespace Terminal

def truth (b : Bool) : String := if b then "true" else "false"

def nameOf (ledger : Ledger) (id : PlayerId) : String :=
  match ledger.player? id with
  | some player => player.name
  | none => "<unknown " ++ id.text ++ ">"

/-- The signatures, each with the short name of who signs. -/
def signatureText (signatures : Signatures) : String :=
  "p1=" ++ truth signatures.playerOne ++ " p2=" ++ truth signatures.playerTwo ++
    " arbiter=" ++ truth signatures.arbiter

def payoutLines (payout : Payout) : List String :=
  ["  Payout:", "    Player One: " ++ payout.amountOne.sats,
    "    Player Two: " ++ payout.amountTwo.sats,
    "    Signatures: " ++ signatureText payout.signatures ++ " token=" ++ truth payout.withToken,
    "    Payout tx: " ++ payout.transaction.word]

def contractLines (ledger : Ledger) (contract : Contract) (status : ContractStatus) : List String :=
  ["Contract " ++ contract.id.text,
    "  Player One: " ++ nameOf ledger contract.playerOne,
    "  Player Two: " ++ nameOf ledger contract.playerTwo,
    "  Pot: " ++ contract.amount.sats ++ " (" ++ contract.amount.bitcoins ++ " BTC)"] ++
  (if contract.description = "" then [] else ["  Description: " ++ contract.description]) ++
  ["  Signatures: " ++ signatureText contract.signatures,
    "  Funding tx: " ++ contract.funding.word,
    "  Created: " ++ contract.createdAt.dateAndTime] ++
  ((ledger.payout? contract.id).map payoutLines).getD [] ++
  ["Status: " ++ status.label, "Next: " ++ status.nextAction.label]

def playerTable (ledger : Ledger) : Table where
  header := ["Name", "ID", "Mine", "Selected"]
  rows := ledger.playerList.map fun player =>
    [player.name, player.id.text, if player.mine then "yes" else "",
      if ledger.selected = some player.id then "*" else ""]

/-- The table of all contracts as a player sees them. -/
def contractTable (ledger : Ledger) (viewer : PlayerId) : Table where
  header := ["ID", "Player One", "Player Two", "Pot (sats)", "Status", "Next"]
  rows := ledger.contractList.map fun contract =>
    let status := contract.status ledger.lookup viewer
    [contract.id.short, nameOf ledger contract.playerOne, nameOf ledger contract.playerTwo,
      Text.ofUInt64 contract.amount, status.label, status.nextAction.label]

end Terminal

end ArbitratedEscrow
