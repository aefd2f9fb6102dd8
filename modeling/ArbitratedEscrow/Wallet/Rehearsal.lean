import ArbitratedEscrow.Wallet.Command
import ArbitratedEscrow.Wallet.Reply

/-!
# A wallet for rehearsals

A wallet without keys. It keeps a log of the commands it gets and carries out
all of them, save those that come with an empty password and those that start
with a text it was told to reject. Outcomes that were queued take the place of
its own replies, one for each command, in the order they were queued.
-/

namespace ArbitratedEscrow.Wallet

structure Rehearsal where
  log : List String := []
  rejected : List String := []
  queue : List (Except EscrowError String) := []

namespace Rehearsal

/-- Refuses from now on each command that starts with a text. -/
def reject (wallet : Rehearsal) (start : String) : Rehearsal :=
  { wallet with rejected := wallet.rejected ++ [start] }

def enqueue (wallet : Rehearsal) (outcome : Except EscrowError String) : Rehearsal :=
  { wallet with queue := wallet.queue ++ [outcome] }

def reply (rejected : List String) (command : String) (secret : Option Secret) : Reply :=
  if secret.any fun s => s.raw.isEmpty then .refused "empty password"
  else if rejected.any fun start => start.toList.isPrefixOf command.toList then
    .refused ("rejected: " ++ command)
  else .accepted none

/-- Logs a command and gives the text of the wallet's own reply. -/
def respond (wallet : Rehearsal) (command : String) (secret : Option Secret) :
    String × Rehearsal :=
  ((reply wallet.rejected command secret).text, { wallet with log := wallet.log ++ [command] })

/-- Logs a request and gives the first queued outcome, or else the wallet's own reply. -/
def call (request : Request) (wallet : Rehearsal) : Except EscrowError String × Rehearsal :=
  let (own, wallet) := wallet.respond request.command.text request.secret
  match wallet.queue with
  | [] => (.ok own, wallet)
  | outcome :: queue => (outcome, { wallet with queue })

end Rehearsal

end ArbitratedEscrow.Wallet
