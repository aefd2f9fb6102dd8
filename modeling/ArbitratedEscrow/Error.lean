import ArbitratedEscrow.Lifecycle.Status
import ArbitratedEscrow.Payout
import ArbitratedEscrow.Text.Digits

/-!
# Errors

What can go wrong, by cause, and the text for each cause. A cause `other` stands
for a reason given in words from outside. The text of an error of the archive or
of a text format is left to whoever reports it, so those have none here.
-/

namespace ArbitratedEscrow

/-- What is wrong with settings, or with a choice that they restrict. -/
inductive SettingsFault where
  | emptyArbiterUrl
  | zeroPassphraseLength
  | emptyDatabaseFile
  | shortPassphrase (least : UInt64)
  | unknownNetwork (name : String)
  | other (reason : String)
deriving DecidableEq

/-- Why a contract's state does not admit an operation. -/
inductive StateFault where
  | samePlayer
  | zeroAmount
  | wrongStatus (id : ContractId) (actual : ContractStatus) (allowed : List ContractStatus)
  | ambiguousStart (start : String) (found : Nat)
  | other (reason : String)
deriving DecidableEq

/-- Why a payout is refused. -/
inductive PayoutFault where
  | overflow
  | mismatch (total pot : Amount)
  | withoutToken
  | other (reason : String)
deriving DecidableEq

inductive DirectoryFault where
  | fileInPlace
  | belowFile
  | nameTooLong
  | unusableName
  | other (reason : String)
deriving DecidableEq

/-- Why a question got no answer. -/
inductive DialogFault where
  | noTerminal
  | endOfInput
  | other (reason : String)
deriving DecidableEq

inductive FileFault where
  | isDirectory
deriving DecidableEq

inductive EscrowError where
  | wallet (reason : String)
  | storage
  | serialization
  | settings (fault : SettingsFault)
  | playerNotFound (id : PlayerId)
  | playerExists (name : String)
  | contractNotFound (id : ContractId)
  | payoutNotFound (contract : ContractId)
  | payoutExists (contract : ContractId)
  | notAParty (player : PlayerId) (contract : ContractId)
  | noPlayerSelected
  | invalidState (fault : StateFault)
  | invalidPayout (fault : PayoutFault)
  | internal (fault : DirectoryFault)
  | file (fault : FileFault)
  | dialog (fault : DialogFault)
deriving DecidableEq

namespace SettingsFault

def reason : SettingsFault → String
  | emptyArbiterUrl => "Arbiter URL cannot be empty"
  | zeroPassphraseLength => "Passphrase minimum length must be greater than 0"
  | emptyDatabaseFile => "Database file name cannot be empty"
  | shortPassphrase least =>
    "Passphrase must be at least " ++ Text.ofUInt64 least ++ " characters"
  | unknownNetwork name =>
    "Unknown network '" ++ name ++ "'. Use regtest, signet, testnet or bitcoin"
  | other reason => reason

end SettingsFault

namespace StateFault

def reason : StateFault → String
  | samePlayer => "a contract needs two different players"
  | zeroAmount => "contract amount must be positive"
  | wrongStatus id actual allowed =>
    "contract " ++ id.text ++ " is " ++ actual.name ++ ", expected one of [" ++
      ", ".intercalate (allowed.map ContractStatus.name) ++ "]"
  | ambiguousStart start found =>
    "contract id prefix '" ++ start ++ "' is ambiguous (" ++ Text.ofNat found ++ " matches)"
  | other reason => reason

end StateFault

namespace PayoutFault

def reason : PayoutFault → String
  | overflow => "payout amounts overflow"
  | mismatch total pot =>
    "payout of " ++ Text.ofUInt64 total ++ " sats does not match pot of " ++
      Text.ofUInt64 pot ++ " sats"
  | withoutToken => "arbiter only signs token-signed payouts"
  | other reason => reason

end PayoutFault

namespace DirectoryFault

def reason : DirectoryFault → String
  | fileInPlace => "Failed to create directory: File exists (os error 17)"
  | belowFile => "Failed to create directory: Not a directory (os error 20)"
  | nameTooLong => "Failed to create directory: File name too long (os error 36)"
  | unusableName => "Failed to create directory: file name contained an unexpected NUL byte"
  | other reason => reason

end DirectoryFault

namespace DialogFault

def reason : DialogFault → String
  | noTerminal => "IO error: not a terminal"
  | endOfInput => "IO error: Reached end of file"
  | other reason => reason

end DialogFault

namespace FileFault

def reason : FileFault → String
  | isDirectory => "Is a directory (os error 21)"

end FileFault

namespace EscrowError

def message : EscrowError → String
  | wallet reason => "Wallet error: " ++ reason
  | storage => "Storage error"
  | serialization => "Serialization error"
  | settings fault => "Invalid configuration: " ++ fault.reason
  | playerNotFound id => "Player not found: " ++ id.text
  | playerExists name => "A player named '" ++ name ++ "' already exists"
  | contractNotFound id => "Contract not found: " ++ id.text
  | payoutNotFound contract => "No payout found for contract: " ++ contract.text
  | payoutExists contract => "Contract " ++ contract.text ++ " already has a payout"
  | notAParty player contract =>
    "Player " ++ player.text ++ " is not a party to contract " ++ contract.text
  | noPlayerSelected => "No local player selected"
  | invalidState fault => "Invalid contract state: " ++ fault.reason
  | invalidPayout fault => "Invalid payout: " ++ fault.reason
  | internal fault => "Internal error: " ++ fault.reason
  | file fault => "IO error: " ++ fault.reason
  | dialog fault => "Dialog error: " ++ fault.reason

end EscrowError

end ArbitratedEscrow
