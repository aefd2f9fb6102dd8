import ArbitratedEscrow.Archive.Basic
import ArbitratedEscrow.Ledger.Basic

/-!
# Keeping the ledger in the archive

`Archive.keep` replaces all players, contracts and payouts in the archive by those
of a ledger, and notes the selected player among the settings. `Archive.load`
makes a ledger of what is there. Amounts are kept as the signed integers with the
same 64 bits, and instants as whole seconds. Reading fails on a missing
identifier and on anything but an integer in an integer column; any integer but
zero is true, a word that is no transaction status counts as unbroadcast, and
a second out of range as the present instant.
-/

namespace ArbitratedEscrow

def Cell.ofBool (b : Bool) : Cell := .integer (if b then 1 else 0)

def Cell.ofAmount (n : Amount) : Cell := .integer n.toInt64

/-- The cell of the second that an instant falls into. -/
def Cell.ofInstant (t : Instant) : Cell := .integer (.ofInt t.seconds)

namespace Archive

def selectedKey : Cell := .text "selected_player"

/-! ### Rows of entries -/

def cellsOfPlayer (player : Player) : List Cell :=
  [.text player.id.text, .text player.name, .text player.picture, .ofBool player.mine]

def cellsOfContract (contract : Contract) : List Cell :=
  [.text contract.id.text, .text contract.playerOne.text, .text contract.playerTwo.text,
    .ofAmount contract.amount, .text contract.description,
    .ofBool contract.signatures.playerOne, .ofBool contract.signatures.playerTwo,
    .ofBool contract.signatures.arbiter, .text contract.funding.word,
    .ofInstant contract.createdAt]

def cellsOfPayout (payout : Payout) : List Cell :=
  [.text payout.contract.text, .ofAmount payout.amountOne, .ofAmount payout.amountTwo,
    .ofBool payout.signatures.playerOne, .ofBool payout.signatures.playerTwo,
    .ofBool payout.signatures.arbiter, .ofBool payout.withToken, .text payout.transaction.word,
    .ofInstant payout.createdAt]

/-! ### Entries of rows -/

/-- The transaction status of a word, unbroadcast for an unknown one. -/
def txStatus (word : String) : TxStatus := (TxStatus.ofWord? word).getD .unbroadcast

/-- The start of a second, or the present instant if the second is out of range. -/
def instant (now : Instant) (seconds : Int64) : Instant :=
  (Instant.ofSeconds? seconds.toInt).getD now

def playerOfRow (row : Row) : Option Player :=
  match row.cells with
  | [.text id, .text name, .text picture, .integer mine] =>
    some ⟨⟨id⟩, name, picture, mine != 0⟩
  | _ => none

def contractOfRow (now : Instant) (row : Row) : Option (Int64 × Contract) :=
  match row.cells with
  | [.text id, .text playerOne, .text playerTwo, .integer amount, .text description,
      .integer oneSigned, .integer twoSigned, .integer arbiterSigned, .text funding,
      .integer createdAt] =>
    some (createdAt,
      { id := ⟨id⟩
        playerOne := ⟨playerOne⟩
        playerTwo := ⟨playerTwo⟩
        amount := amount.toUInt64
        description := description
        signatures := ⟨oneSigned != 0, twoSigned != 0, arbiterSigned != 0⟩
        funding := txStatus funding
        createdAt := instant now createdAt })
  | _ => none

def payoutOfRow (now : Instant) (row : Row) : Option Payout :=
  match row.cells with
  | [.text contract, .integer amountOne, .integer amountTwo, .integer oneSigned,
      .integer twoSigned, .integer arbiterSigned, .integer withToken, .text transaction,
      .integer createdAt] =>
    some
      { contract := ⟨contract⟩
        amountOne := amountOne.toUInt64
        amountTwo := amountTwo.toUInt64
        signatures := ⟨oneSigned != 0, twoSigned != 0, arbiterSigned != 0⟩
        withToken := withToken != 0
        transaction := txStatus transaction
        createdAt := instant now createdAt }
  | _ => none

/-! ### Lists of entries -/

/-- All players by name, those of one name by identifier. -/
def playerList? (archive : Archive) : Option (List Player) := do
  let players ← archive.players.mapM playerOfRow
  return players.mergeSort fun a b =>
    a.name < b.name || (a.name == b.name && a.id.text ≤ b.id.text)

/-- All contracts by the second they were created in, those of one second by identifier. -/
def contractList? (archive : Archive) (now : Instant) : Option (List Contract) := do
  let contracts ← archive.contracts.mapM (contractOfRow now)
  return (contracts.mergeSort fun a b =>
    a.1 < b.1 || (a.1 == b.1 && a.2.id.text ≤ b.2.id.text)).map (·.2)

def payoutList? (archive : Archive) (now : Instant) : Option (List Payout) := do
  let payouts ← archive.payouts.mapM (payoutOfRow now)
  return payouts.mergeSort fun a b => a.contract.text ≤ b.contract.text

def selected? (archive : Archive) : Option (Option PlayerId) :=
  match (archive.settings.find? fun row => Row.key row == selectedKey).map Row.cells with
  | none => some none
  | some [_, .text id] => some (some ⟨id⟩)
  | some _ => none

/-! ### Whole ledgers -/

/-- The ledger of the entries in the archive. -/
def load? (archive : Archive) (now : Instant) : Option Ledger := do
  let players ← archive.playerList?
  let contracts ← archive.contractList? now
  let payouts ← archive.payoutList? now
  let selected ← archive.selected?
  return .restore players contracts payouts selected

/-- The archive with the entries of a ledger in place of its own; other settings stay. -/
def keep? (archive : Archive) (ledger : Ledger) : Option Archive := do
  let others := archive.settings.filter fun row => Row.key row != selectedKey
  let kept : Archive := { settings := others }
  let kept ← ledger.playerList.foldlM (fun a p => a.putRow .players (cellsOfPlayer p)) kept
  let kept ← ledger.contractList.foldlM (fun a c => a.putRow .contracts (cellsOfContract c)) kept
  let kept ← ledger.payoutList.foldlM (fun a p => a.putRow .payouts (cellsOfPayout p)) kept
  match ledger.selected with
  | none => return kept
  | some id => kept.insertRow .settings none [selectedKey, .text id.text]

def orFail {α : Type} (result : Option α) : Except EscrowError α :=
  match result with
  | some a => .ok a
  | none => .error .storage

end Archive

end ArbitratedEscrow
