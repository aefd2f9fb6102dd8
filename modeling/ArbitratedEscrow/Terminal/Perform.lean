import ArbitratedEscrow.Terminal.Report
import ArbitratedEscrow.Terminal.Scene
import ArbitratedEscrow.Terminal.Task

/-!
# Performing tasks

How each task is performed: what it looks up, what it asks the user, which
operations it carries out, and what it tells. What a task asks the user comes
before the operations it carries out, so that a task that is broken off there
has changed nothing.
-/

namespace ArbitratedEscrow.Terminal

open Act

def thePlayerNamed (name : String) (ledger : Ledger) : Except EscrowError Player :=
  match ledger.playerNamed? name with
  | some player => .ok player
  | none => .error (.playerNotFound ⟨name⟩)

/-- Whether a task may go on: it does if it is forced or the user consents. -/
def consent (forced : Bool) (question : String) : Act Bool :=
  if forced then pure true else hold (Dialog.confirm question)

namespace Task

def passwordQuestion : String := "Wallet password"

def tokenQuestion : String := "Arbitration token"

def performRegisterPlayer (name : String) : Act Unit := do
  let passphrase ← hold Dialog.newPassphrase
  match ← operate (.registerPlayer name passphrase) with
  | .player player =>
    sayAll ["Registered player '" ++ player.name ++ "'", "  ID: " ++ player.id.text]
    if (← look fun ledger => .ok ledger.selected).isNone then
      let _ ← operate (.select player.id)
      say "  Selected as local player"
  | _ => pure ()

def performAddPlayer (name : String) : Act Unit := do
  match ← operate (.addPlayer name) with
  | .player player => say ("Added player '" ++ player.name ++ "' (" ++ player.id.text ++ ")")
  | _ => pure ()

def performListPlayers : Act Unit := do
  let ledger ← look .ok
  if ledger.playerList.isEmpty then
    sayAll ["No players found.", "Register one with: escrow player new <name>"]
  else say (playerTable ledger).text

def performRemovePlayer (name : String) (forced : Bool) : Act Unit := do
  let player ← look (thePlayerNamed name)
  if ← consent forced ("Remove player '" ++ player.name ++ "'?") then
    let _ ← operate (.removePlayer player.id)
    say ("Removed player '" ++ player.name ++ "'")
  else say "Cancelled."

def performNewContract (playerOne playerTwo : String) (amount : Amount) (description : String) :
    Act Unit := do
  let one ← look (thePlayerNamed playerOne)
  let two ← look (thePlayerNamed playerTwo)
  match ← operate (.newContract one.id two.id amount description) with
  | .contract contract =>
    sayAll
      ["Created contract " ++ contract.id.text,
        "  " ++ one.name ++ " vs " ++ two.name ++ " for " ++ amount.sats,
        "Sign it with: escrow contract sign " ++ contract.id.short]
  | _ => pure ()

def performShowContract (start : String) : Act Unit := do
  let id ← look (·.resolve start)
  let contract ← look (·.theContract id)
  let status ← look (·.theStatus id)
  sayAll (contractLines (← look .ok) contract status)

def performSignContract (start : String) : Act Unit := do
  let id ← look (·.resolve start)
  let password ← hold (Dialog.secret passwordQuestion)
  let _ ← operate (.signContract id password)
  let status ← look (·.theStatus id)
  sayAll ["Signed contract " ++ id.short, "Status: " ++ status.label]
  if status = .playersSigned then
    say ("Send it to the arbiter with: escrow contract submit " ++ id.short)

def performDismissContract (start : String) (forced : Bool) : Act Unit := do
  let id ← look (·.resolve start)
  let status ← look (·.theStatus id)
  let question := "Contract " ++ id.short ++ " is " ++ status.label ++ ". Dismiss anyway?"
  if ← consent (forced || status.isTerminal) question then
    let _ ← operate (.dismissContract id)
    say ("Dismissed contract " ++ id.short)
  else say "Cancelled."

def performSignPayout (start : String) (withToken : Bool) : Act Unit := do
  let id ← look (·.resolve start)
  let credential ←
    if withToken then Credential.token <$> hold (Dialog.secret tokenQuestion)
    else Credential.password <$> hold (Dialog.secret passwordQuestion)
  let _ ← operate (.signPayout id credential)
  let status ← look (·.theStatus id)
  sayAll ["Signed payout for contract " ++ id.short, "Status: " ++ status.label]

/-- Carries out one operation on a contract and tells of it. -/
def performOn (start : String) (operation : ContractId → Operation)
    (told : String → List String) : Act Unit := do
  let id ← look (·.resolve start)
  let _ ← operate (operation id)
  sayAll (told id.short)

def performSelect (name : String) : Act Unit := do
  let player ← look (thePlayerNamed name)
  let _ ← operate (.select player.id)
  say ("Selected player '" ++ player.name ++ "'")

def performShowStatus : Act Unit := do
  let viewer ← look (·.theLocalPlayer)
  let ledger ← look .ok
  say ("Contracts for " ++ nameOf ledger viewer ++ ":")
  if ledger.contractList.isEmpty then
    sayAll
      ["No contracts found.",
        "Create one with: escrow contract new <player-one> <player-two> <sats>"]
  else say (contractTable ledger viewer).text

def perform : Task → Act Unit
  | registerPlayer name => performRegisterPlayer name
  | addPlayer name => performAddPlayer name
  | listPlayers => performListPlayers
  | removePlayer name forced => performRemovePlayer name forced
  | newContract playerOne playerTwo amount description =>
    performNewContract playerOne playerTwo amount description
  | showContract start => performShowContract start
  | signContract start => performSignContract start
  | declineContract start =>
    performOn start .declineContract fun short => ["Declined contract " ++ short]
  | certifyContract start =>
    performOn start .certifyContract fun short =>
      ["Contract " ++ short ++ " certified by arbiter",
        "Broadcast funding with: escrow contract broadcast " ++ short]
  | broadcastFunding start =>
    performOn start .broadcastFunding fun short => ["Funding tx broadcast for contract " ++ short]
  | confirmFunding start =>
    performOn start .confirmFunding fun short => ["Contract " ++ short ++ " is live"]
  | dismissContract start forced => performDismissContract start forced
  | proposePayout start amountOne amountTwo =>
    performOn start (.proposePayout · amountOne amountTwo) fun short =>
      ["Proposed payout for contract " ++ short, "  Player One: " ++ amountOne.sats,
        "  Player Two: " ++ amountTwo.sats]
  | signPayout start withToken => performSignPayout start withToken
  | certifyPayout start =>
    performOn start .certifyPayout fun short =>
      ["Payout for contract " ++ short ++ " signed by arbiter"]
  | denyPayout start =>
    performOn start .denyPayout fun short => ["Denied payout for contract " ++ short]
  | broadcastPayout start =>
    performOn start .broadcastPayout fun short => ["Payout tx broadcast for contract " ++ short]
  | confirmPayout start =>
    performOn start .confirmPayout fun short => ["Contract " ++ short ++ " resolved"]
  | select name => performSelect name
  | showStatus => performShowStatus

end Task

end ArbitratedEscrow.Terminal
