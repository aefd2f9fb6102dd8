import ArbitratedEscrow.Signatures

/-!
# What a user can ask for

A request writes the settings of a data directory or sets a task on its ledger.
Tasks name players by their names and contracts by the start of their
identifiers.
-/

namespace ArbitratedEscrow.Terminal

inductive Task where
  | registerPlayer (name : String)
  | addPlayer (name : String)
  | listPlayers
  | removePlayer (name : String) (forced : Bool)
  | newContract (playerOne playerTwo : String) (amount : Amount) (description : String)
  | showContract (start : String)
  | signContract (start : String)
  | declineContract (start : String)
  | certifyContract (start : String)
  | broadcastFunding (start : String)
  | confirmFunding (start : String)
  | dismissContract (start : String) (forced : Bool)
  | proposePayout (start : String) (amountOne amountTwo : Amount)
  | signPayout (start : String) (withToken : Bool)
  | certifyPayout (start : String)
  | denyPayout (start : String)
  | broadcastPayout (start : String)
  | confirmPayout (start : String)
  | select (name : String)
  | showStatus
deriving DecidableEq, Repr

inductive Request where
  | init (network : String)
  | task (task : Task)
deriving DecidableEq, Repr

/-- A request and the data directory it is for, if the user named one. -/
structure Invocation where
  directory : Option String
  request : Request
deriving DecidableEq, Repr

end ArbitratedEscrow.Terminal
