/-!
# Seats, signatures and transactions

Contracts and payouts have two seats, for the two players, and collect the
signatures of both and of the arbiter. Each goes with a transaction that is
broadcast and confirmed later.
-/

namespace ArbitratedEscrow

/-- An amount of money in satoshis. -/
abbrev Amount := UInt64

inductive Seat where
  | one
  | two
deriving DecidableEq, Repr

def Seat.other : Seat → Seat
  | one => two
  | two => one

inductive TxStatus where
  | unbroadcast
  | broadcast
  | confirmed
deriving DecidableEq, Repr, Inhabited

namespace TxStatus

def word : TxStatus → String
  | unbroadcast => "unbroadcast"
  | broadcast => "broadcast"
  | confirmed => "confirmed"

def ofWord? (word : String) : Option TxStatus :=
  if word = "unbroadcast" then some unbroadcast
  else if word = "broadcast" then some broadcast
  else if word = "confirmed" then some confirmed
  else none

@[simp] theorem ofWord?_word (status : TxStatus) : ofWord? status.word = some status := by
  cases status <;> simp [ofWord?, word]

/-- Position on the way from unbroadcast to confirmed. -/
def rank : TxStatus → Nat
  | unbroadcast => 0
  | broadcast => 1
  | confirmed => 2

end TxStatus

/-- Who has signed. -/
structure Signatures where
  playerOne : Bool := false
  playerTwo : Bool := false
  arbiter : Bool := false
deriving DecidableEq, Repr, Inhabited

namespace Signatures

def blank : Signatures := {}

def of (signatures : Signatures) : Seat → Bool
  | .one => signatures.playerOne
  | .two => signatures.playerTwo

/-- How many players have signed. -/
def playerCount (signatures : Signatures) : Nat :=
  signatures.playerOne.toNat + signatures.playerTwo.toNat

/-- Both players and the arbiter have signed. -/
def complete (signatures : Signatures) : Bool :=
  signatures.playerOne && signatures.playerTwo && signatures.arbiter

/-- Neither a player nor the arbiter has signed. -/
def isBlank (signatures : Signatures) : Bool :=
  !(signatures.playerOne || signatures.playerTwo || signatures.arbiter)

end Signatures

end ArbitratedEscrow
