/-!
# Statuses and actions

Where a contract or a payout stands, seen by one player, and what that player
can do next. Every status and action has a name, which is one word, and a label
for people. `ContractStatus.ofPayout` tells where a funded contract stands once
it has a payout: an invalid payout leaves it live, so that a new one can be
proposed.
-/

namespace ArbitratedEscrow

inductive ContractStatus where
  | unsigned
  | signed
  | received
  | playersSigned
  | certified
  | fundingBroadcast
  | live
  | payoutUnsigned
  | payoutSigned
  | payoutSignedWithToken
  | payoutReceived
  | payoutCertified
  | payoutBroadcast
  | resolved
  | invalid
deriving DecidableEq, Repr

inductive PayoutStatus where
  | unsigned
  | weSigned
  | weSignedWithToken
  | theySigned
  | certified
  | broadcast
  | resolved
  | invalid
deriving DecidableEq, Repr

inductive ContractAction where
  | issue
  | awaitCounterparty
  | acceptOrDecline
  | sendToArbiter
  | broadcastFunding
  | awaitFundingConfirmation
  | requestPayout
  | signPayout
  | sendPayoutToArbiter
  | acceptOrDenyPayout
  | broadcastPayout
  | awaitPayoutConfirmation
  | dismiss
deriving DecidableEq, Repr

namespace PayoutStatus

def all : List PayoutStatus :=
  [unsigned, weSigned, weSignedWithToken, theySigned, certified, broadcast, resolved, invalid]

def name : PayoutStatus → String
  | unsigned => "Unsigned"
  | weSigned => "WeSigned"
  | weSignedWithToken => "WeSignedWithToken"
  | theySigned => "TheySigned"
  | certified => "Certified"
  | broadcast => "Broadcast"
  | resolved => "Resolved"
  | invalid => "Invalid"

def label : PayoutStatus → String
  | unsigned => "Unsigned"
  | weSigned => "Signed by us"
  | weSignedWithToken => "Signed by us with token"
  | theySigned => "Signed by opponent"
  | certified => "Certified"
  | broadcast => "Broadcast"
  | resolved => "Resolved"
  | invalid => "Invalid"

def ofName? (name : String) : Option PayoutStatus := all.find? fun status => status.name == name

end PayoutStatus

namespace ContractAction

def all : List ContractAction :=
  [issue, awaitCounterparty, acceptOrDecline, sendToArbiter, broadcastFunding,
    awaitFundingConfirmation, requestPayout, signPayout, sendPayoutToArbiter, acceptOrDenyPayout,
    broadcastPayout, awaitPayoutConfirmation, dismiss]

def name : ContractAction → String
  | issue => "Issue"
  | awaitCounterparty => "AwaitCounterparty"
  | acceptOrDecline => "AcceptOrDecline"
  | sendToArbiter => "SendToArbiter"
  | broadcastFunding => "BroadcastFunding"
  | awaitFundingConfirmation => "AwaitFundingConfirmation"
  | requestPayout => "RequestPayout"
  | signPayout => "SignPayout"
  | sendPayoutToArbiter => "SendPayoutToArbiter"
  | acceptOrDenyPayout => "AcceptOrDenyPayout"
  | broadcastPayout => "BroadcastPayout"
  | awaitPayoutConfirmation => "AwaitPayoutConfirmation"
  | dismiss => "Dismiss"

def label : ContractAction → String
  | issue => "Issue contract"
  | awaitCounterparty => "Wait for opponent"
  | acceptOrDecline => "Accept or decline contract"
  | sendToArbiter => "Send to arbiter"
  | broadcastFunding => "Broadcast funding tx"
  | awaitFundingConfirmation => "Wait for funding confirmation"
  | requestPayout => "Request payout"
  | signPayout => "Sign payout"
  | sendPayoutToArbiter => "Send payout to arbiter"
  | acceptOrDenyPayout => "Accept or deny payout"
  | broadcastPayout => "Broadcast payout tx"
  | awaitPayoutConfirmation => "Wait for payout confirmation"
  | dismiss => "Dismiss"

def ofName? (name : String) : Option ContractAction := all.find? fun action => action.name == name

end ContractAction

namespace ContractStatus

def all : List ContractStatus :=
  [unsigned, signed, received, playersSigned, certified, fundingBroadcast, live, payoutUnsigned,
    payoutSigned, payoutSignedWithToken, payoutReceived, payoutCertified, payoutBroadcast, resolved,
    invalid]

def name : ContractStatus → String
  | unsigned => "Unsigned"
  | signed => "Signed"
  | received => "Received"
  | playersSigned => "PlayersSigned"
  | certified => "Certified"
  | fundingBroadcast => "FundingTxBroadcast"
  | live => "Live"
  | payoutUnsigned => "PayoutUnsigned"
  | payoutSigned => "PayoutSigned"
  | payoutSignedWithToken => "PayoutSignedWithToken"
  | payoutReceived => "PayoutReceived"
  | payoutCertified => "PayoutCertified"
  | payoutBroadcast => "PayoutTxBroadcast"
  | resolved => "Resolved"
  | invalid => "Invalid"

def label : ContractStatus → String
  | unsigned => "Unsigned"
  | signed => "Signed, waiting for opponent"
  | received => "Received"
  | playersSigned => "Signed by both players"
  | certified => "Certified by arbiter"
  | fundingBroadcast => "Funding tx broadcast"
  | live => "Live"
  | payoutUnsigned => "Payout unsigned"
  | payoutSigned => "Payout signed"
  | payoutSignedWithToken => "Payout signed with token"
  | payoutReceived => "Payout received"
  | payoutCertified => "Payout certified"
  | payoutBroadcast => "Payout tx broadcast"
  | resolved => "Resolved"
  | invalid => "Invalid"

def ofName? (name : String) : Option ContractStatus := all.find? fun status => status.name == name

/-- Where a funded contract stands, given where its payout stands. -/
def ofPayout : PayoutStatus → ContractStatus
  | .unsigned => payoutUnsigned
  | .weSigned => payoutSigned
  | .weSignedWithToken => payoutSignedWithToken
  | .theySigned => payoutReceived
  | .certified => payoutCertified
  | .broadcast => payoutBroadcast
  | .resolved => resolved
  | .invalid => live

/-- What to offer a player who sees a contract in a status. -/
def nextAction : ContractStatus → ContractAction
  | unsigned => .issue
  | signed => .awaitCounterparty
  | received => .acceptOrDecline
  | playersSigned => .sendToArbiter
  | certified => .broadcastFunding
  | fundingBroadcast => .awaitFundingConfirmation
  | live => .requestPayout
  | payoutUnsigned => .signPayout
  | payoutSigned => .awaitCounterparty
  | payoutSignedWithToken => .sendPayoutToArbiter
  | payoutReceived => .acceptOrDenyPayout
  | payoutCertified => .broadcastPayout
  | payoutBroadcast => .awaitPayoutConfirmation
  | resolved => .dismiss
  | invalid => .dismiss

/-- Nothing is left to do but to dismiss the contract. -/
def isTerminal (status : ContractStatus) : Bool := status == resolved || status == invalid

theorem isTerminal_iff_nextAction (status : ContractStatus) :
    status.isTerminal = true ↔ status.nextAction = .dismiss := by
  cases status <;> decide

end ContractStatus

end ArbitratedEscrow
