import ArbitratedEscrow.Payout
import ArbitratedEscrow.Text.Digits
import ArbitratedEscrow.Wallet.Secret

/-!
# Commands to the wallet

What the wallet is asked to do. A command goes out as one line of text, in which
names stand between quotes as they are; a secret travels beside it.
-/

namespace ArbitratedEscrow.Wallet

inductive Command where
  | registerPlayer (name : String)
  | addPlayer (name : String)
  | removePlayer (name : String)
  | newContract (nameOne nameTwo : String) (amount : Amount)
  | signContract (id : ContractId)
  | submitContract (id : ContractId) (arbiterUrl : String)
  | broadcastContract (id : ContractId)
  | confirmContract (id : ContractId)
  | deleteContract (id : ContractId)
  | newPayout (id : ContractId) (amountOne amountTwo : Amount)
  | signPayout (id : ContractId)
  | signPayoutWithToken (id : ContractId)
  | submitPayout (id : ContractId) (arbiterUrl : String)
  | deletePayout (id : ContractId)
  | broadcastPayout (id : ContractId)
  | confirmPayout (id : ContractId)
deriving DecidableEq

/-- A text between quotes, with nothing escaped. -/
def quoted (s : String) : String := "\"" ++ s ++ "\""

namespace Command

def text : Command → String
  | registerPlayer name => "player register " ++ quoted name
  | addPlayer name => "player add " ++ quoted name
  | removePlayer name => "player remove " ++ quoted name
  | newContract nameOne nameTwo amount =>
    "contract new " ++ quoted nameOne ++ " " ++ quoted nameTwo ++ " " ++ Text.ofUInt64 amount
  | signContract id => "contract sign " ++ id.text
  | submitContract id arbiterUrl => "arbiter submit-contract " ++ id.text ++ " " ++ arbiterUrl
  | broadcastContract id => "contract broadcast " ++ id.text
  | confirmContract id => "contract confirm " ++ id.text
  | deleteContract id => "contract delete " ++ id.text
  | newPayout id amountOne amountTwo =>
    "payout new " ++ id.text ++ " " ++ Text.ofUInt64 amountOne ++ " " ++ Text.ofUInt64 amountTwo
  | signPayout id => "payout sign " ++ id.text
  | signPayoutWithToken id => "payout sign-with-token " ++ id.text
  | submitPayout id arbiterUrl => "arbiter submit-payout " ++ id.text ++ " " ++ arbiterUrl
  | deletePayout id => "payout delete " ++ id.text
  | broadcastPayout id => "payout broadcast " ++ id.text
  | confirmPayout id => "payout confirm " ++ id.text

end Command

/-- A command and the secret that authorises it, if it takes one. -/
structure Request where
  command : Command
  secret : Option Secret

end ArbitratedEscrow.Wallet
