import ArbitratedEscrow.Error
import ArbitratedEscrow.Text.Split
import ArbitratedEscrow.Wallet.Secret

/-!
# Questions at the terminal

A dialog puts a question, perhaps several times, and reads the keys that the
user types until they answer it. It leaves a text on the screen whether or not
it ends with an answer. Secrets are not shown.
-/

namespace ArbitratedEscrow.Terminal

/-- What a dialog leaves on the screen and how it ends. -/
structure Dialog (α : Type) where
  drawn : String
  answer : Except DialogFault α

namespace Dialog

def after {α : Type} (drawn : String) (dialog : Dialog α) : Dialog α :=
  { dialog with drawn := drawn ++ dialog.drawn }

/-- The lines that keys make up, without the breaks that end them. -/
def linesOf (keys : List Char) : List (List Char) :=
  let parts := Text.split '\n' keys
  let lines := if parts.getLast? = some [] then parts.dropLast else parts
  lines.map fun line => (line.reverse.dropWhile (· == '\r')).reverse

def hidden (question : String) : String := question ++ ": [hidden]\n"

def askLine (question : String) : List (List Char) → Dialog Secret
  | [] => ⟨question ++ ": ", .error .endOfInput⟩
  | line :: lines =>
    after (question ++ ": \n") <|
      if line.isEmpty then askLine question lines
      else ⟨hidden question, .ok ⟨String.ofList line⟩⟩

def secret (question : String) (keys : List Char) : Dialog Secret :=
  askLine question (linesOf keys)

def choosePassphrase : String := "Choose a passphrase"

def confirmPassphrase : String := "Confirm passphrase"

/--
Asks for a passphrase and then for the same one again. Starts over if they differ;
an empty line counts as no answer.
-/
def askTwice (chosen : Option (List Char)) : List (List Char) → Dialog Secret
  | [] => ⟨(if chosen.isSome then confirmPassphrase else choosePassphrase) ++ ": ",
      .error .endOfInput⟩
  | line :: lines =>
    match chosen with
    | none =>
      after (choosePassphrase ++ ": \n") <|
        askTwice (if line.isEmpty then none else some line) lines
    | some first =>
      after (confirmPassphrase ++ ": \n") <|
        if line.isEmpty then askTwice chosen lines
        else if line = first then ⟨hidden choosePassphrase, .ok ⟨String.ofList line⟩⟩
        else after "error: Passphrases do not match\n" (askTwice none lines)

def newPassphrase (keys : List Char) : Dialog Secret := askTwice none (linesOf keys)

/-- The answer that a key gives to a question for consent: yes, no, or none. -/
def consent? (key : Char) : Option Bool :=
  if key = 'y' ∨ key = 'Y' then some true
  else if key = 'n' ∨ key = 'N' ∨ key = '\n' ∨ key = '\r' then some false
  else none

/--
Whether a key's name ends with a character after escape and bracket: arrows, home,
end and back-tab. All other names have one more character.
-/
def endsKey (c : Char) : Bool := ['A', 'B', 'C', 'D', 'F', 'H', 'Z'].contains c || 127 < c.toNat

/--
The keys that were pressed, of those with a character of their own. A key without
one sends a name for it: escape and a character, or escape, bracket and one or
two characters. A name that breaks off is no key.
-/
def pressed : List Char → List Char
  | [] => []
  | '\x1b' :: '[' :: c :: rest =>
    if endsKey c then pressed rest
    else
      match rest with
      | [] => []
      | _ :: rest => pressed rest
  | '\x1b' :: _ :: rest => pressed rest
  | c :: rest => if c = '\x1b' then [] else c :: pressed rest

/-- Asks for consent. The first key that is an answer counts. -/
def confirm (question : String) (keys : List Char) : Dialog Bool :=
  let asked := question ++ " [y/N] "
  match (pressed keys).findSome? consent? with
  | some true => ⟨asked ++ question ++ " yes\n", .ok true⟩
  | some false => ⟨asked ++ question ++ " no\n", .ok false⟩
  | none => ⟨asked, .error .endOfInput⟩

end Dialog

end ArbitratedEscrow.Terminal
