import ArbitratedEscrow.Text.Digits

/-!
# Tokens of JSON texts

A JSON text is a row of tokens between blanks, which are space, tab, line feed
and carriage return. A number token keeps its spelling in parts. A text token
holds the text that is spelled; it holds none if an escape spells half of a
surrogate pair without the other half, since no text has such a character.
-/

namespace ArbitratedEscrow.Json

/-- A number as it is spelled: sign, whole part, and the digits of fraction and exponent. -/
structure Number where
  negative : Bool
  whole : List Char
  fraction : Option (List Char)
  exponent : Option (Bool × List Char)
deriving DecidableEq, Repr

inductive Token where
  | openArray
  | closeArray
  | openObject
  | closeObject
  | comma
  | colon
  | null
  | bool (b : Bool)
  | number (n : Number)
  | text (s : Option String)
deriving DecidableEq, Repr

/-! ### Numbers -/

namespace Number

def readDigits (s : List Char) : Option (List Char × List Char) :=
  let ds := s.takeWhile Char.isDigit
  if ds.isEmpty then none else some (ds, s.dropWhile Char.isDigit)

/-- The whole part, which has no leading zero, and the rest of the text. -/
def readWhole (s : List Char) : Option (List Char × List Char) := do
  let (ds, rest) ← readDigits s
  if ds.head? = some '0' ∧ ds.length ≠ 1 then none else return (ds, rest)

def readFraction : List Char → Option (Option (List Char) × List Char)
  | '.' :: s => do
    let (ds, rest) ← readDigits s
    return (some ds, rest)
  | s => some (none, s)

def readSign : List Char → Bool × List Char
  | '-' :: s => (true, s)
  | '+' :: s => (false, s)
  | s => (false, s)

def readExponent (s : List Char) : Option (Option (Bool × List Char) × List Char) :=
  match s with
  | 'e' :: rest | 'E' :: rest => do
    let (negative, rest) := readSign rest
    let (ds, rest) ← readDigits rest
    return (some (negative, ds), rest)
  | _ => some (none, s)

def readUnsigned (negative : Bool) (s : List Char) : Option (Number × List Char) := do
  let (whole, s) ← readWhole s
  let (fraction, s) ← readFraction s
  let (exponent, s) ← readExponent s
  return (⟨negative, whole, fraction, exponent⟩, s)

def read : List Char → Option (Number × List Char)
  | '-' :: s => readUnsigned true s
  | s => readUnsigned false s

end Number

/-! ### Strings -/

/-- What one character or escape of a string spells: a character or a UTF-16 unit. -/
inductive Piece where
  | char (c : Char)
  | unit (n : Nat)
deriving DecidableEq, Repr

def hexValue (c : Char) : Option Nat :=
  let n := c.toNat
  if 48 ≤ n ∧ n ≤ 57 then some (n - 48)
  else if 97 ≤ n ∧ n ≤ 102 then some (n - 87)
  else if 65 ≤ n ∧ n ≤ 70 then some (n - 55)
  else none

def hexUnit (a b c d : Char) : Option Nat := do
  return (((← hexValue a) * 16 + (← hexValue b)) * 16 + (← hexValue c)) * 16 + (← hexValue d)

/-- The character that a letter stands for after a backslash. -/
def unescape (c : Char) : Option Char :=
  if c = '"' ∨ c = '\\' ∨ c = '/' then some c
  else if c = 'b' then some '\x08'
  else if c = 'f' then some '\x0c'
  else if c = 'n' then some '\n'
  else if c = 'r' then some '\r'
  else if c = 't' then some '\t'
  else none

/-- The pieces of a string up to its closing quote, and the rest of the text. -/
def readPieces : List Char → Option (List Piece × List Char)
  | [] => none
  | '"' :: rest => some ([], rest)
  | '\\' :: 'u' :: a :: b :: c :: d :: rest => do
    let n ← hexUnit a b c d
    let (pieces, rest) ← readPieces rest
    return (.unit n :: pieces, rest)
  | '\\' :: e :: rest => do
    let c ← unescape e
    let (pieces, rest) ← readPieces rest
    return (.char c :: pieces, rest)
  | c :: rest =>
    if c.toNat < 32 then none
    else do
      let (pieces, rest) ← readPieces rest
      return (.char c :: pieces, rest)

/-- The text that pieces spell; a unit of a surrogate pair needs the other one beside it. -/
def assemble : List Piece → Option (List Char)
  | [] => some []
  | .char c :: rest => (assemble rest).map (c :: ·)
  | .unit high :: .unit low :: rest =>
    if 0xD800 ≤ high ∧ high < 0xDC00 then
      if 0xDC00 ≤ low ∧ low < 0xE000 then
        (assemble rest).map
          (Char.ofNat (0x10000 + (high - 0xD800) * 0x400 + (low - 0xDC00)) :: ·)
      else none
    else if 0xDC00 ≤ high ∧ high < 0xE000 then none
    else (assemble (.unit low :: rest)).map (Char.ofNat high :: ·)
  | .unit n :: rest =>
    if 0xD800 ≤ n ∧ n < 0xE000 then none else (assemble rest).map (Char.ofNat n :: ·)

/-- The text up to the closing quote, if what is spelled is a text, and the rest. -/
def readString (s : List Char) : Option (Option String × List Char) := do
  let (pieces, rest) ← readPieces s
  return ((assemble pieces).map String.ofList, rest)

/-! ### Rows of tokens -/

def isSpace (c : Char) : Bool := c == ' ' || c == '\t' || c == '\n' || c == '\r'

def Token.read (s : List Char) : Option (Token × List Char) :=
  match s with
  | '[' :: rest => some (.openArray, rest)
  | ']' :: rest => some (.closeArray, rest)
  | '\x7b' :: rest => some (.openObject, rest)
  | '\x7d' :: rest => some (.closeObject, rest)
  | ',' :: rest => some (.comma, rest)
  | ':' :: rest => some (.colon, rest)
  | 'n' :: 'u' :: 'l' :: 'l' :: rest => some (.null, rest)
  | 't' :: 'r' :: 'u' :: 'e' :: rest => some (.bool true, rest)
  | 'f' :: 'a' :: 'l' :: 's' :: 'e' :: rest => some (.bool false, rest)
  | '"' :: rest => (readString rest).map fun (spelled, rest) => (.text spelled, rest)
  | _ => (Number.read s).map fun (n, rest) => (.number n, rest)

/-- Tokens of a text, at most as many as the first argument says. -/
def readTokens : Nat → List Char → Option (List Token)
  | 0, _ => none
  | fuel + 1, s =>
    match s.dropWhile isSpace with
    | [] => some []
    | c :: rest => do
      let (token, rest) ← Token.read (c :: rest)
      let tokens ← readTokens fuel rest
      return token :: tokens

/-- All tokens of a text. Each takes a character, so that the text's length bounds their number. -/
def tokens (s : List Char) : Option (List Token) := readTokens (s.length + 1) s

end ArbitratedEscrow.Json
