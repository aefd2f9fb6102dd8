import ArbitratedEscrow.Terminal.Task
import ArbitratedEscrow.Text.Digits

/-!
# The grammar of commands

Commands stand in groups. A command takes operands, each a text or an amount,
and options, which have a long name and may have a letter. Some options are open
at every level, before or after the name of a group or command.
-/

namespace ArbitratedEscrow.Terminal

inductive Opt where
  | directory
  | verbose
  | help
  | version
  | network
  | description
  | force
  | token
deriving DecidableEq, Repr

namespace Opt

def long : Opt → String
  | directory => "data-dir"
  | verbose => "verbose"
  | help => "help"
  | version => "version"
  | network => "network"
  | description => "desc"
  | force => "force"
  | token => "token"

def letter : Opt → Option Char
  | directory => some 'd'
  | verbose => some 'v'
  | help => some 'h'
  | version => some 'V'
  | network => some 'n'
  | description => none
  | force => some 'f'
  | token => some 't'

def takesValue : Opt → Bool
  | directory | network | description => true
  | _ => false

/-- Whether the option admits a value. A directory has a name. -/
def admitsValue (opt : Opt) (value : String) : Bool := opt != directory || value != ""

end Opt

inductive Operand where
  | text
  | amount
deriving DecidableEq, Repr

inductive Verb where
  | init
  | registerPlayer
  | addPlayer
  | listPlayers
  | removePlayer
  | newContract
  | showContract
  | signContract
  | declineContract
  | certifyContract
  | broadcastFunding
  | confirmFunding
  | dismissContract
  | proposePayout
  | signPayout
  | certifyPayout
  | denyPayout
  | broadcastPayout
  | confirmPayout
  | select
  | showStatus
deriving DecidableEq, Repr

/-- How far a command has been named. -/
inductive Level where
  | program
  | player
  | contract
  | payout
  | verb (verb : Verb)
deriving DecidableEq, Repr

/-- The amount that decimal digits spell, perhaps with a plus sign before them. -/
def readAmount? (text : String) : Option Amount :=
  let ds :=
    match text.toList with
    | '+' :: ds => ds
    | ds => ds
  if !ds.isEmpty && ds.all Char.isDigit && Text.ofDigits ds < UInt64.size then
    some (UInt64.ofNat (Text.ofDigits ds))
  else none

def Operand.admits (operand : Operand) (text : String) : Bool :=
  match operand with
  | .text => true
  | .amount => (readAmount? text).isSome

namespace Verb

def options : Verb → List Opt
  | init => [.network]
  | removePlayer | dismissContract => [.force]
  | newContract => [.description]
  | signPayout => [.token]
  | _ => []

def operands : Verb → List Operand
  | init | listPlayers | showStatus => []
  | registerPlayer | addPlayer | removePlayer | select => [.text]
  | newContract => [.text, .text, .amount]
  | proposePayout => [.text, .amount, .amount]
  | _ => [.text]

end Verb

namespace Level

def words : Level → List (String × Level)
  | program =>
    [("init", verb .init), ("player", player), ("contract", contract), ("payout", payout),
      ("select", verb .select), ("status", verb .showStatus)]
  | player =>
    [("new", verb .registerPlayer), ("add", verb .addPlayer), ("list", verb .listPlayers),
      ("remove", verb .removePlayer)]
  | contract =>
    [("new", verb .newContract), ("show", verb .showContract), ("sign", verb .signContract),
      ("decline", verb .declineContract), ("submit", verb .certifyContract),
      ("broadcast", verb .broadcastFunding), ("confirm", verb .confirmFunding),
      ("dismiss", verb .dismissContract)]
  | payout =>
    [("new", verb .proposePayout), ("sign", verb .signPayout), ("submit", verb .certifyPayout),
      ("deny", verb .denyPayout), ("broadcast", verb .broadcastPayout),
      ("confirm", verb .confirmPayout)]
  | verb _ => []

def word? (level : Level) (word : String) : Option Level :=
  (level.words.find? fun entry => entry.1 == word).map (·.2)

def options : Level → List Opt
  | program => [.directory, .verbose, .help, .version]
  | verb v => v.options ++ [.directory, .verbose, .help]
  | _ => [.directory, .verbose, .help]

/-- The operands that are due at a level. -/
def operands : Level → List Operand
  | verb v => v.operands
  | _ => []

def longOption? (level : Level) (name : String) : Option Opt :=
  level.options.find? fun opt => opt.long == name

def letterOption? (level : Level) (letter : Char) : Option Opt :=
  level.options.find? fun opt => opt.letter == some letter

end Level

end ArbitratedEscrow.Terminal
