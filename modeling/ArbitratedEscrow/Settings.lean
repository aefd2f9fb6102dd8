import ArbitratedEscrow.Error
import ArbitratedEscrow.Wallet.Secret

/-!
# Settings

The network that is played on, the address of the arbiter, the least length of a
new passphrase, and the name of the database file.
-/

namespace ArbitratedEscrow

inductive Network where
  | bitcoin
  | testnet
  | testnet4
  | signet
  | regtest
deriving DecidableEq, Repr

namespace Network

def all : List Network := [bitcoin, testnet, testnet4, signet, regtest]

def name : Network → String
  | bitcoin => "bitcoin"
  | testnet => "testnet"
  | testnet4 => "testnet4"
  | signet => "signet"
  | regtest => "regtest"

def ofName? (name : String) : Option Network := all.find? fun network => network.name == name

/--
The network that a user asks for, in letters of either case. No letter outside
ASCII has one of these names' letters as its lower case.
-/
def ofRequest (request : String) : Except EscrowError Network :=
  let word := request.toLower
  if word = "regtest" then .ok regtest
  else if word = "signet" then .ok signet
  else if word = "testnet" then .ok testnet
  else if word = "bitcoin" ∨ word = "mainnet" then .ok bitcoin
  else .error (.settings (.unknownNetwork request))

end Network

structure Settings where
  network : Network
  arbiterUrl : String
  passphraseMinLength : UInt64
  databaseFile : String
deriving DecidableEq

namespace Settings

def arbiterOf : Network → String
  | .testnet | .signet => "https://arbiter.testnet.local"
  | .regtest => "http://localhost:5000"
  | .bitcoin | .testnet4 => "https://arbiter.local"

def forNetwork (network : Network) : Settings :=
  ⟨network, arbiterOf network, 12, "escrow.db"⟩

instance : Inhabited Settings := ⟨forNetwork .regtest⟩

/-- Refuses settings that leave something out. -/
def validate (settings : Settings) : Except EscrowError Unit :=
  if settings.arbiterUrl = "" then .error (.settings .emptyArbiterUrl)
  else if settings.passphraseMinLength = 0 then .error (.settings .zeroPassphraseLength)
  else if settings.databaseFile = "" then .error (.settings .emptyDatabaseFile)
  else .ok ()

def checkPassphrase (settings : Settings) (passphrase : Secret) : Except EscrowError Unit :=
  if passphrase.length < settings.passphraseMinLength.toNat then
    .error (.settings (.shortPassphrase settings.passphraseMinLength))
  else .ok ()

end Settings

end ArbitratedEscrow
