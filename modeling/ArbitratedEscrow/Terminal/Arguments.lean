import ArbitratedEscrow.Terminal.Grammar

/-!
# Reading the arguments of a command line

The arguments are read from left to right, and the first one that does not fit
decides that the usage is wrong. An option may be given once at each level; of a
directory named at several levels the deepest counts. After `--` all arguments
are operands.
-/

namespace ArbitratedEscrow.Terminal

/-- Why there is nothing to carry out. -/
inductive Halt where
  | usage
  | help
  | version
deriving DecidableEq, Repr

/-- What the arguments so far amount to. -/
structure Reading where
  level : Level := .program
  /-- The options given at the level. -/
  given : List Opt := []
  /-- The values of options at all levels, the latest first. -/
  values : List (Opt × String) := []
  operands : List String := []
  /-- The option whose value comes next. -/
  pending : Option Opt := none
  /-- Whether `--` has been read. -/
  literal : Bool := false

namespace Reading

/-- The latest value of an option. -/
def value? (reading : Reading) (opt : Opt) : Option String :=
  (reading.values.find? fun entry => entry.1 == opt).map (·.2)

def give (reading : Reading) (opt : Opt) : Except Halt Reading :=
  match opt with
  | .help => .error .help
  | .version => .error .version
  | _ =>
    if reading.given.contains opt then .error .usage
    else .ok { reading with given := opt :: reading.given }

def giveValue (reading : Reading) (opt : Opt) (value : String) : Except Halt Reading := do
  if !opt.admitsValue value then throw .usage
  let reading ← reading.give opt
  return { reading with values := (opt, value) :: reading.values, pending := none }

/-- Reads what follows `--`. -/
def readLong (reading : Reading) (text : List Char) : Except Halt Reading :=
  let name := String.ofList (text.takeWhile (· != '='))
  match reading.level.longOption? name, text.dropWhile (· != '=') with
  | none, _ => .error .usage
  | some opt, [] =>
    if opt.takesValue then .ok { reading with pending := some opt } else reading.give opt
  | some opt, _ :: value =>
    if opt.takesValue then reading.giveValue opt (String.ofList value) else .error .usage

/-- Reads the letters after a single `-`. A value follows the letter of its option. -/
def readLetters (reading : Reading) : List Char → Except Halt Reading
  | [] => .ok reading
  | letter :: rest =>
    match reading.level.letterOption? letter with
    | none => .error .usage
    | some opt =>
      if opt.takesValue then
        match rest with
        | [] => .ok { reading with pending := some opt }
        | '=' :: value => reading.giveValue opt (String.ofList value)
        | value => reading.giveValue opt (String.ofList value)
      else do
        let reading ← reading.give opt
        readLetters reading rest

def readOperand (reading : Reading) (text : String) : Except Halt Reading :=
  match reading.level.operands[reading.operands.length]? with
  | none => .error .usage
  | some operand =>
    if operand.admits text then .ok { reading with operands := reading.operands ++ [text] }
    else .error .usage

/-- Reads the name of a group or command, or an operand. -/
def readPlain (reading : Reading) (text : String) : Except Halt Reading :=
  match reading.level.word? text with
  | some level => .ok { reading with level, given := [] }
  | none => reading.readOperand text

def read (reading : Reading) (text : String) : Except Halt Reading :=
  if reading.literal then reading.readOperand text
  else
    match reading.pending, text.toList with
    | some _, '-' :: _ :: _ => .error .usage
    | some opt, _ => reading.giveValue opt text
    | none, ['-', '-'] => .ok { reading with literal := true }
    | none, '-' :: '-' :: long => reading.readLong long
    | none, '-' :: letter :: letters => reading.readLetters (letter :: letters)
    | none, _ => reading.readPlain text

/-- The request that a command makes with the operands and options it got. -/
def request? (reading : Reading) (verb : Verb) : Option Request :=
  let forced := reading.given.contains .force
  match verb, reading.operands with
  | .init, [] => some (.init ((reading.value? .network).getD "regtest"))
  | .registerPlayer, [name] => some (.task (.registerPlayer name))
  | .addPlayer, [name] => some (.task (.addPlayer name))
  | .listPlayers, [] => some (.task .listPlayers)
  | .removePlayer, [name] => some (.task (.removePlayer name forced))
  | .newContract, [one, two, amount] => do
    let description := (reading.value? .description).getD ""
    return .task (.newContract one two (← readAmount? amount) description)
  | .showContract, [start] => some (.task (.showContract start))
  | .signContract, [start] => some (.task (.signContract start))
  | .declineContract, [start] => some (.task (.declineContract start))
  | .certifyContract, [start] => some (.task (.certifyContract start))
  | .broadcastFunding, [start] => some (.task (.broadcastFunding start))
  | .confirmFunding, [start] => some (.task (.confirmFunding start))
  | .dismissContract, [start] => some (.task (.dismissContract start forced))
  | .proposePayout, [start, one, two] => do
    return .task (.proposePayout start (← readAmount? one) (← readAmount? two))
  | .signPayout, [start] => some (.task (.signPayout start (reading.given.contains .token)))
  | .certifyPayout, [start] => some (.task (.certifyPayout start))
  | .denyPayout, [start] => some (.task (.denyPayout start))
  | .broadcastPayout, [start] => some (.task (.broadcastPayout start))
  | .confirmPayout, [start] => some (.task (.confirmPayout start))
  | .select, [name] => some (.task (.select name))
  | .showStatus, [] => some (.task .showStatus)
  | _, _ => none

/-- The invocation that all arguments amount to. -/
def finish (reading : Reading) : Except Halt Invocation :=
  match reading.pending, reading.level with
  | none, .verb verb =>
    match reading.request? verb with
    | some request => .ok ⟨reading.value? .directory, request⟩
    | none => .error .usage
  | _, _ => .error .usage

end Reading

def Reading.expectsWord (reading : Reading) : Bool :=
  !reading.level.words.isEmpty && reading.pending.isNone && !reading.literal

def helpWord : String := "help"

/-- Whether words name a group or command one after the other. -/
def names : Level → List String → Bool
  | _, [] => true
  | level, word :: words =>
    match level.word? word with
    | some level => names level words
    | none => false

def readArguments (reading : Reading) : List String → Except Halt Invocation
  | [] => reading.finish
  | text :: texts =>
    if text = helpWord ∧ reading.expectsWord then
      .error (if names reading.level texts then .help else .usage)
    else
      match reading.read text with
      | .ok reading => readArguments reading texts
      | .error halt => .error halt

def Invocation.read (arguments : List String) : Except Halt Invocation :=
  readArguments {} arguments

end ArbitratedEscrow.Terminal
