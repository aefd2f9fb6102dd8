import ArbitratedEscrow.Ledger.Edit
import ArbitratedEscrow.Settings
import ArbitratedEscrow.Wallet.Command

/-!
# Operations

What a client of the ledger can ask for. `Operation.check` does all that comes
before the wallet is asked: it refuses, or it settles the matter without the
wallet, or it names one request to the wallet and what to commit to the ledger
once the wallet has accepted. A check reads the ledger and changes nothing.

Statuses guard the steps of a contract's life: each step is open in some
statuses, as the selected player sees them, and in no others.
-/

namespace ArbitratedEscrow

inductive Operation where
  | localPlayer
  | contract (id : ContractId)
  | payout (id : ContractId)
  | status (id : ContractId)
  | payoutStatus (id : ContractId)
  | select (id : PlayerId)
  | registerPlayer (name : String) (passphrase : Secret)
  | addPlayer (name : String)
  | removePlayer (id : PlayerId)
  | newContract (playerOne playerTwo : PlayerId) (amount : Amount) (description : String)
  | signContract (id : ContractId) (password : Secret)
  | certifyContract (id : ContractId)
  | broadcastFunding (id : ContractId)
  | confirmFunding (id : ContractId)
  | declineContract (id : ContractId)
  | dismissContract (id : ContractId)
  | proposePayout (id : ContractId) (amountOne amountTwo : Amount)
  | signPayout (id : ContractId) (credential : Credential)
  | certifyPayout (id : ContractId)
  | denyPayout (id : ContractId)
  | broadcastPayout (id : ContractId)
  | confirmPayout (id : ContractId)

/-- What is left to do once the wallet has accepted. -/
inductive Commit where
  | registerPlayer (name : String)
  | addPlayer (name : String)
  | removePlayer (player : Player)
  | fileContract (playerOne playerTwo : PlayerId) (amount : Amount) (description : String)
  | patchContract (id : ContractId) (patch : Contract.Patch)
  | removeContract (id : ContractId)
  | filePayout (id : ContractId) (amountOne amountTwo : Amount)
  | patchPayout (id : ContractId) (patch : Payout.Patch)
  | removePayout (id : ContractId)
deriving DecidableEq

/-- What a check finds for an operation that is not refused. -/
inductive Verdict where
  | settled (answer : Answer) (ledger : Ledger)
  | asks (request : Wallet.Request) (commit : Commit)

namespace Ledger

/-! ### What checks look at -/

def theLocalPlayer (ledger : Ledger) : Except EscrowError PlayerId :=
  match ledger.selected with
  | some id => .ok id
  | none => .error .noPlayerSelected

def thePlayer (ledger : Ledger) (id : PlayerId) : Except EscrowError Player :=
  match ledger.player? id with
  | some player => .ok player
  | none => .error (.playerNotFound id)

def theContract (ledger : Ledger) (id : ContractId) : Except EscrowError Contract :=
  match ledger.contract? id with
  | some contract => .ok contract
  | none => .error (.contractNotFound id)

def thePayout (ledger : Ledger) (id : ContractId) : Except EscrowError Payout :=
  match ledger.payout? id with
  | some payout => .ok payout
  | none => .error (.payoutNotFound id)

/-- How the selected player sees a contract. -/
def theStatus (ledger : Ledger) (id : ContractId) : Except EscrowError ContractStatus := do
  let viewer ← ledger.theLocalPlayer
  let contract ← ledger.theContract id
  return contract.status ledger.lookup viewer

def thePayoutStatus (ledger : Ledger) (id : ContractId) : Except EscrowError PayoutStatus := do
  let viewer ← ledger.theLocalPlayer
  let payout ← ledger.thePayout id
  return payout.status ledger.lookup viewer

/-- Refuses unless the selected player sees a contract in one of some statuses. -/
def requireStatus (ledger : Ledger) (id : ContractId) (allowed : List ContractStatus) :
    Except EscrowError Unit := do
  let actual ← ledger.theStatus id
  if allowed.contains actual then return ()
  else throw (.invalidState (.wrongStatus id actual allowed))

/-- The seat of the selected player at a contract. -/
def localSeat (ledger : Ledger) (contract : Contract) : Except EscrowError Seat := do
  let player ← ledger.theLocalPlayer
  match contract.seatOf player with
  | some seat => return seat
  | none => throw (.notAParty player contract.id)

end Ledger

namespace Operation

def ask (command : Wallet.Command) (commit : Commit) : Except EscrowError Verdict :=
  .ok (.asks ⟨command, none⟩ commit)

/-- A request with a secret, and what to commit. -/
def askWith (secret : Secret) (command : Wallet.Command) (commit : Commit) :
    Except EscrowError Verdict :=
  .ok (.asks ⟨command, some secret⟩ commit)

/-- Everything of an operation that comes before the wallet is asked. -/
def check (settings : Settings) (ledger : Ledger) : Operation → Except EscrowError Verdict
  | localPlayer => do return .settled (.playerId (← ledger.theLocalPlayer)) ledger
  | contract id => do return .settled (.contract (← ledger.theContract id)) ledger
  | payout id => do return .settled (.payout (← ledger.thePayout id)) ledger
  | status id => do return .settled (.contractStatus (← ledger.theStatus id)) ledger
  | payoutStatus id => do return .settled (.payoutStatus (← ledger.thePayoutStatus id)) ledger
  | select id => do return .settled .done (← ledger.select id)
  | registerPlayer name passphrase => do
    settings.checkPassphrase passphrase
    askWith passphrase (.registerPlayer name) (.registerPlayer name)
  | addPlayer name =>
    match ledger.playerNamed? name with
    | some known => .ok (.settled (.player known) ledger)
    | none => ask (.addPlayer name) (.addPlayer name)
  | removePlayer id => do
    let player ← ledger.thePlayer id
    ask (.removePlayer player.name) (.removePlayer player)
  | newContract playerOne playerTwo amount description => do
    if playerOne = playerTwo then throw (.invalidState .samePlayer)
    if amount = 0 then throw (.invalidState .zeroAmount)
    let one ← ledger.thePlayer playerOne
    let two ← ledger.thePlayer playerTwo
    ask (.newContract one.name two.name amount) (.fileContract one.id two.id amount description)
  | signContract id password => do
    ledger.requireStatus id [.unsigned, .received]
    let seat ← ledger.localSeat (← ledger.theContract id)
    askWith password (.signContract id) (.patchContract id (.sign seat))
  | certifyContract id => do
    ledger.requireStatus id [.playersSigned]
    ask (.submitContract id settings.arbiterUrl)
      (.patchContract id { arbiterSigned := some true })
  | broadcastFunding id => do
    ledger.requireStatus id [.certified]
    ask (.broadcastContract id) (.patchContract id { funding := some .broadcast })
  | confirmFunding id => do
    ledger.requireStatus id [.fundingBroadcast]
    ask (.confirmContract id) (.patchContract id { funding := some .confirmed })
  | declineContract id => do
    ledger.requireStatus id [.received]
    ask (.deleteContract id) (.removeContract id)
  | dismissContract id => do
    let _ ← ledger.theContract id
    ask (.deleteContract id) (.removeContract id)
  | proposePayout id amountOne amountTwo => do
    ledger.requireStatus id [.live]
    let contract ← ledger.theContract id
    if UInt64.size ≤ amountOne.toNat + amountTwo.toNat then throw (.invalidPayout .overflow)
    let total := amountOne + amountTwo
    if total ≠ contract.amount then throw (.invalidPayout (.mismatch total contract.amount))
    ask (.newPayout id amountOne amountTwo) (.filePayout id amountOne amountTwo)
  | signPayout id credential => do
    ledger.requireStatus id [.payoutUnsigned, .payoutReceived]
    let seat ← ledger.localSeat (← ledger.theContract id)
    match credential with
    | .password password =>
      askWith password (.signPayout id) (.patchPayout id (.sign seat))
    | .token token =>
      askWith token (.signPayoutWithToken id)
        (.patchPayout id { Payout.Patch.sign seat with withToken := some true })
  | certifyPayout id => do
    ledger.requireStatus id [.payoutSignedWithToken]
    let payout ← ledger.thePayout id
    if !payout.withToken then throw (.invalidPayout .withoutToken)
    ask (.submitPayout id settings.arbiterUrl) (.patchPayout id { arbiterSigned := some true })
  | denyPayout id => do
    ledger.requireStatus id [.payoutReceived, .payoutUnsigned]
    ask (.deletePayout id) (.removePayout id)
  | broadcastPayout id => do
    ledger.requireStatus id [.payoutCertified]
    ask (.broadcastPayout id) (.patchPayout id { transaction := some .broadcast })
  | confirmPayout id => do
    ledger.requireStatus id [.payoutBroadcast]
    ask (.confirmPayout id) (.patchPayout id { transaction := some .confirmed })

end Operation

end ArbitratedEscrow
