import ArbitratedEscrow.Operation.Basic
import ArbitratedEscrow.Wallet.Reply

/-!
# Running operations

A desk is a ledger and a source of identifiers. `Commit.apply` is the part of an
operation after the wallet has accepted; it reads the ledger as it is then, so
that other operations may come between check and commit. `Operation.run` puts
check, one call of the wallet, and commit together. The wallet may be anything
that answers a request with a text or fails.
-/

namespace ArbitratedEscrow

structure Desk where
  ledger : Ledger
  ids : IdSource

namespace Commit

def answerWith {α : Type} (desk : Desk) (answer : α → Answer)
    (change : Except EscrowError (α × Ledger)) : Except EscrowError Answer × Desk :=
  match change with
  | .ok (result, ledger) => (.ok (answer result), { desk with ledger })
  | .error fault => (.error fault, desk)

/-- Adds a new player with an identifier from the source. -/
def addNewPlayer (desk : Desk) (name : String) (mine : Bool) : Except EscrowError Answer × Desk :=
  let (nonce, ids) := desk.ids.draw
  let player := Player.new name mine nonce
  answerWith { desk with ids } .player ((desk.ledger.addPlayer player).map (player, ·))

/-- Commits to a desk at an instant what the wallet has accepted. -/
def apply (now : Instant) (desk : Desk) : Commit → Except EscrowError Answer × Desk
  | registerPlayer name =>
    match desk.ledger.playerNamed? name with
    | some known =>
      answerWith desk .player
        ((desk.ledger.setMine known.id true).map ({ known with mine := true }, ·))
    | none => addNewPlayer desk name true
  | addPlayer name => addNewPlayer desk name false
  | removePlayer player =>
    (.ok (.player player), { desk with ledger := desk.ledger.removePlayer player.id })
  | fileContract playerOne playerTwo amount description =>
    let (nonce, ids) := desk.ids.draw
    let contract := Contract.new playerOne playerTwo amount description nonce now
    (.ok (.contract contract), ⟨desk.ledger.addContract contract, ids⟩)
  | patchContract id patch => answerWith desk .contract (desk.ledger.updateContract id patch)
  | removeContract id => (.ok .done, { desk with ledger := desk.ledger.removeContract id })
  | filePayout id amountOne amountTwo =>
    let cleared := { desk with ledger := desk.ledger.removePayout id }
    let payout := Payout.new id amountOne amountTwo now
    answerWith cleared .payout ((cleared.ledger.addPayout payout).map (payout, ·))
  | patchPayout id patch => answerWith desk .payout (desk.ledger.updatePayout id patch)
  | removePayout id => (.ok .done, { desk with ledger := desk.ledger.removePayout id })

end Commit

namespace Operation

/-- What becomes of a commit when the wallet has answered or failed. -/
def conclude (now : Instant) (desk : Desk) (commit : Commit)
    (outcome : Except EscrowError String) : Except EscrowError Answer × Desk :=
  match outcome.bind Wallet.Reply.parse with
  | .ok _ => commit.apply now desk
  | .error fault => (.error fault, desk)

/-- Runs an operation with a wallet that has a state of its own. -/
def run {σ : Type} (call : Wallet.Request → σ → Except EscrowError String × σ)
    (settings : Settings) (now : Instant) (operation : Operation) (wallet : σ) (desk : Desk) :
    Except EscrowError Answer × σ × Desk :=
  match operation.check settings desk.ledger with
  | .error fault => (.error fault, wallet, desk)
  | .ok (.settled answer ledger) => (.ok answer, wallet, { desk with ledger })
  | .ok (.asks request commit) =>
    let (outcome, wallet) := call request wallet
    let (result, desk) := conclude now desk commit outcome
    (result, wallet, desk)

end Operation

end ArbitratedEscrow
