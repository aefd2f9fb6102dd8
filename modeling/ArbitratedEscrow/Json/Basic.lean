import ArbitratedEscrow.Binary64
import ArbitratedEscrow.Directory
import ArbitratedEscrow.Text.Hex

/-!
# JSON values and their texts

`Json.compact` writes a value without blanks and `Json.pretty` with one member
to a line. Members keep their order; `Json.sortMembers` puts them in the order of
their names, of two with one name the later one.
-/

namespace ArbitratedEscrow

/-- A JSON value whose numbers are integers or doubles. -/
inductive Json where
  | null
  | bool (b : Bool)
  | int (n : Int)
  | double (x : Binary64)
  | string (s : String)
  | array (items : List Json)
  | object (members : List (String × Json))
deriving Inhabited

instance : Key String := ⟨id, id⟩

namespace Json

/-! ### Strings -/

/-- What stands for a character between the quotes: quote, backslash and controls are escaped. -/
def escape (c : Char) : List Char :=
  if c = '"' then ['\\', '"']
  else if c = '\\' then ['\\', '\\']
  else if c = '\x08' then ['\\', 'b']
  else if c = '\t' then ['\\', 't']
  else if c = '\n' then ['\\', 'n']
  else if c = '\x0c' then ['\\', 'f']
  else if c = '\r' then ['\\', 'r']
  else if c.toNat < 32 then
    ['\\', 'u', '0', '0', Text.hexDigit (c.toNat / 16), Text.hexDigit (c.toNat % 16)]
  else [c]

def quote (s : List Char) : List Char := '"' :: s.flatMap escape ++ ['"']

/-! ### Compact texts -/

def truth (b : Bool) : List Char := if b then ['t', 'r', 'u', 'e'] else ['f', 'a', 'l', 's', 'e']

mutual

/-- A value without blanks. -/
def write : Json → List Char
  | .null => ['n', 'u', 'l', 'l']
  | .bool b => truth b
  | .int n => Text.signedDigits n
  | .double x => x.text
  | .string s => quote s.toList
  | .array [] => ['[', ']']
  | .array (item :: items) => '[' :: write item ++ writeItems items
  | .object [] => ['\x7b', '\x7d']
  | .object ((name, value) :: members) =>
    '\x7b' :: quote name.toList ++ ':' :: write value ++ writeMembers members

def writeItems : List Json → List Char
  | [] => [']']
  | item :: items => ',' :: write item ++ writeItems items

def writeMembers : List (String × Json) → List Char
  | [] => ['\x7d']
  | (name, value) :: members =>
    ',' :: quote name.toList ++ ':' :: write value ++ writeMembers members

end

def compact (value : Json) : String := String.ofList value.write

/-! ### Texts with one member to a line -/

def newline (depth : Nat) : List Char := '\n' :: List.replicate (2 * depth) ' '

mutual

/-- A value at a depth, its items and members on lines of their own. -/
def writeLines (depth : Nat) : Json → List Char
  | .array (item :: items) =>
    '[' :: newline (depth + 1) ++ writeLines (depth + 1) item ++ writeItemLines depth items
  | .object ((name, value) :: members) =>
    '\x7b' :: newline (depth + 1) ++ quote name.toList ++ ':' :: ' ' ::
      writeLines (depth + 1) value ++ writeMemberLines depth members
  | .null => ['n', 'u', 'l', 'l']
  | .bool b => truth b
  | .int n => Text.signedDigits n
  | .double x => x.text
  | .string s => quote s.toList
  | .array [] => ['[', ']']
  | .object [] => ['\x7b', '\x7d']

def writeItemLines (depth : Nat) : List Json → List Char
  | [] => newline depth ++ [']']
  | item :: items =>
    ',' :: newline (depth + 1) ++ writeLines (depth + 1) item ++ writeItemLines depth items

def writeMemberLines (depth : Nat) : List (String × Json) → List Char
  | [] => newline depth ++ ['\x7d']
  | (name, value) :: members =>
    ',' :: newline (depth + 1) ++ quote name.toList ++ ':' :: ' ' ::
      writeLines (depth + 1) value ++ writeMemberLines depth members

end

/-- The text of a value with one member to a line, indented by two blanks for each depth. -/
def pretty (value : Json) : String := String.ofList (writeLines 0 value)

/-! ### Members in order -/

/-- Members in the order of their names; of two with one name the later one counts. -/
def sortMembers (members : List (String × Json)) : List (String × Json) :=
  (members.foldl (fun d m => d.insert m.1 m.2) (Directory.empty : Directory String Json)).entries

def amount (n : UInt64) : Json := .int n.toNat

/-- The value of a field, or null if it has none. -/
def optional (value : Option Json) : Json := value.getD .null

end Json

end ArbitratedEscrow
