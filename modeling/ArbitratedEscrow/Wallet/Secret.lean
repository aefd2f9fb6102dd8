/-!
# Secrets

A secret is a password, a passphrase or an arbitration token. Every text that
describes one is the same, whatever the secret is.
-/

namespace ArbitratedEscrow

structure Secret where
  raw : String

namespace Secret

def length (secret : Secret) : Nat := secret.raw.length

/-- What stands for any secret in texts. -/
def description (_ : Secret) : String := "[redacted]"

end Secret

inductive Credential where
  | password (secret : Secret)
  | token (secret : Secret)

namespace Credential

def secret : Credential → Secret
  | password secret => secret
  | token secret => secret

def isToken : Credential → Bool
  | password _ => false
  | token _ => true

/-- The sort of credential, with the secret left out. -/
def description : Credential → String
  | password secret => "Password(" ++ secret.description ++ ")"
  | token secret => "Token(" ++ secret.description ++ ")"

end Credential

end ArbitratedEscrow
