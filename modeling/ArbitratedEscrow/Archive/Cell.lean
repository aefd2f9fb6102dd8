import ArbitratedEscrow.Binary64

/-!
# Cells of the archive

A cell holds nothing, a 64-bit integer or a text. A column has an affinity, into
whose form a cell is brought where that is possible: a text column writes an
integer in decimal, and an integer column reads a text that spells a number.
A number that is no 64-bit integer stays in an integer column as `fraction`;
nothing reads it back, so that its value does not matter.
-/

namespace ArbitratedEscrow

inductive Cell where
  | null
  | integer (n : Int64)
  | text (s : String)
  | fraction
deriving DecidableEq

/-- What a column prefers to hold. -/
inductive Affinity where
  | text
  | integer
deriving DecidableEq

namespace Cell

def isSpace (c : Char) : Bool := c == ' ' || (9 ≤ c.toNat && c.toNat ≤ 13)

def ofInt? (n : Int) : Option Cell :=
  if Int64.minValue.toInt ≤ n ∧ n ≤ Int64.maxValue.toInt then some (.integer (.ofInt n)) else none

/-- The value from which on a coefficient takes no more digits: with one more, 64 bits hold it. -/
def fullCoefficient : Nat := (UInt64.size - 10) / 10

def takeWhole (read : Nat × Int) (c : Char) : Nat × Int :=
  if fullCoefficient ≤ read.1 then (read.1, read.2 + 1)
  else (10 * read.1 + Text.digitValue c, read.2)

def takeFraction (read : Nat × Int) (c : Char) : Nat × Int :=
  if fullCoefficient ≤ read.1 then read
  else (10 * read.1 + Text.digitValue c, read.2 - 1)

/--
A coefficient and its decimal place, from the digits before and behind a point.
Digits that no longer fit count as zeros.
-/
def coefficientOf (whole fraction : List Char) : Nat × Int :=
  fraction.foldl takeFraction (whole.foldl takeWhole (0, 0))

/--
The cell of a number spelled with a fraction or an exponent: the double next to
it, if that is an integer of less than 64 bits. Places beyond 30 make any number
too large, and places below -400 make it zero.
-/
def ofScientific (negative : Bool) (whole fraction : List Char) (exponent : Int) : Cell :=
  let (coefficient, place) := coefficientOf whole fraction
  let place := max (-400) (min 30 (place + exponent))
  let (num, den) := Binary64.timesTen coefficient 1 place
  match Binary64.nearest negative num den with
  | none => .fraction
  | some x =>
    let (n, d) := x.magnitude
    if n % d = 0 ∧ n / d < Nat.pow 2 63 then
      .integer (.ofInt (if negative then -((n / d : Nat) : Int) else (n / d : Nat)))
    else .fraction

def readSign : List Char → Bool × List Char
  | '-' :: s => (true, s)
  | '+' :: s => (false, s)
  | s => (false, s)

/-- The size of an exponent. One of six digits or more counts as 10000. -/
def exponentOf (ds : List Char) : Nat :=
  ds.foldl (fun e c => if e < 10000 then 10 * e + Text.digitValue c else 10000) 0

/-- The exponent at the end of a text, zero if the text is empty. -/
def readExponent : List Char → Option Int
  | [] => some 0
  | c :: s =>
    if c = 'e' ∨ c = 'E' then
      let (negative, ds) := readSign s
      if ds.isEmpty || !ds.all Char.isDigit then none
      else some (if negative then -(exponentOf ds : Int) else exponentOf ds)
    else none

/--
The number that a text spells between spaces: a sign, digits with a point
anywhere among them, and an exponent, of which only a digit must be there.
-/
def ofNumeral? (s : List Char) : Option Cell :=
  let s := ((s.dropWhile isSpace).reverse.dropWhile isSpace).reverse
  let (negative, s) := readSign s
  let whole := s.takeWhile Char.isDigit
  match s.dropWhile Char.isDigit with
  | [] =>
    if whole.isEmpty then none
    else
      let n : Int := if negative then -(Text.ofDigits whole : Int) else Text.ofDigits whole
      some ((ofInt? n).getD .fraction)
  | '.' :: rest =>
    let fraction := rest.takeWhile Char.isDigit
    if whole.isEmpty && fraction.isEmpty then none
    else (readExponent (rest.dropWhile Char.isDigit)).map (ofScientific negative whole fraction)
  | rest =>
    if whole.isEmpty then none
    else (readExponent rest).map (ofScientific negative whole [])

def convert : Affinity → Cell → Cell
  | .text, .integer n => .text (String.ofList (Text.signedDigits n.toInt))
  | .integer, .text s => (ofNumeral? s.toList).getD (.text s)
  | _, cell => cell

end Cell

end ArbitratedEscrow
