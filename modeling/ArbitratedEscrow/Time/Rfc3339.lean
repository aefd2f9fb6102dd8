import ArbitratedEscrow.Text.Blank
import ArbitratedEscrow.Text.Digits
import ArbitratedEscrow.Time.Instant

/-!
# RFC 3339 texts of instants

`write` gives an instant in UTC: a year of four digits, or with a sign and at
least four digits outside 0 to 9999, a fraction of 0, 3, 6 or 9 digits, the
fewest that are exact, and `Z`. A leap second is written as second 60.

`read` accepts more: any offset from UTC, a space for the `T`, blanks before
the numbers and separators, short numbers, and fractions of any length, of
which nine digits count.
-/

namespace ArbitratedEscrow.Instant

open Text

/-! ### Writing -/

/-- A year: four digits, or a sign and at least four digits. -/
def writeYear (year : Int) : List Char :=
  if 0 ≤ year ∧ year ≤ 9999 then padded 4 year.natAbs
  else (if year < 0 then '-' else '+') :: padded 4 year.natAbs

def writeDate (date : Date) : List Char :=
  writeYear date.year ++ '-' :: padded 2 date.month ++ '-' :: padded 2 date.day

/-- A time of day with colons between its parts; `extra` is 1 in a leap second. -/
def writeTime (secondOfDay extra : Nat) : List Char :=
  padded 2 (secondOfDay / 3600) ++ ':' :: padded 2 (secondOfDay / 60 % 60) ++
    ':' :: padded 2 (secondOfDay % 60 + extra)

/-- The fewest of 0, 3, 6 and 9 digits that are exact, after a point. -/
def writeFraction (nanos : Nat) : List Char :=
  if nanos = 0 then []
  else if nanos % 1000000 = 0 then '.' :: padded 3 (nanos / 1000000)
  else if nanos % 1000 = 0 then '.' :: padded 6 (nanos / 1000)
  else '.' :: padded 9 nanos

def write (t : Instant) : List Char :=
  writeDate t.date ++ 'T' :: writeTime t.secondOfDay (t.nanos / 1000000000) ++
    writeFraction (t.nanos % 1000000000) ++ ['Z']

def rfc3339 (t : Instant) : String := String.ofList t.write

/-- Date and time of day with a space between them, without the fraction. -/
def dateAndTime (t : Instant) : String :=
  String.ofList
    (writeDate t.date ++ ' ' :: writeTime t.secondOfDay (t.nanos / 1000000000))

/-! ### Reading -/

def expect (c : Char) : List Char → Option (List Char)
  | [] => none
  | d :: rest => if d = c then some rest else none

/-- A year: up to four digits, or a sign and any number of digits. -/
def readYear (s : List Char) : Option (Int × List Char) :=
  match s with
  | '-' :: rest => (readNumber rest.length rest).map fun (n, rest) => (-(n : Int), rest)
  | '+' :: rest => (readNumber rest.length rest).map fun (n, rest) => ((n : Int), rest)
  | _ => (readNumber 4 s).map fun (n, rest) => ((n : Int), rest)

def readTwo (s : List Char) : Option (Nat × List Char) := readNumber 2 (dropBlanks s)

def readDate (s : List Char) : Option (Date × List Char) := do
  let (year, s) ← readYear (dropBlanks s)
  let s ← expect '-' (dropBlanks s)
  let (month, s) ← readTwo s
  let s ← expect '-' (dropBlanks s)
  let (day, s) ← readTwo s
  return (⟨year, month, day⟩, s)

def readSeparator : List Char → Option (List Char)
  | 'T' :: rest => some rest
  | 't' :: rest => some rest
  | ' ' :: rest => some rest
  | _ => none

def readTime (s : List Char) : Option ((Nat × Nat × Nat) × List Char) := do
  let (hour, s) ← readTwo s
  let s ← expect ':' (dropBlanks s)
  let (minute, s) ← readTwo s
  let s ← expect ':' (dropBlanks s)
  let (second, s) ← readTwo s
  return ((hour, minute, second), s)

/-- The nanoseconds of a fraction, of which nine digits count. -/
def readFraction : List Char → Option (Nat × List Char)
  | '.' :: s =>
    let ds := (s.take 9).takeWhile Char.isDigit
    if ds.isEmpty then none
    else some (ofDigits ds * Nat.pow 10 (9 - ds.length), (s.drop ds.length).dropWhile Char.isDigit)
  | s => some (0, s)

def readPair (limit : Nat) : List Char → Option (Nat × List Char)
  | a :: b :: rest =>
    if a.isDigit && b.isDigit && ofDigits [a, b] < limit then some (ofDigits [a, b], rest)
    else none
  | _ => none

/-- Hours and minutes of an offset, with any colons and blanks between them, in seconds. -/
def readHoursMinutes (s : List Char) : Option (Nat × List Char) := do
  let (hours, s) ← readPair 100 s
  let (minutes, s) ← readPair 60 (s.dropWhile fun c => c == ':' || isBlank c)
  return (hours * 3600 + minutes * 60, s)

def readOffset (s : List Char) : Option (Int × List Char) :=
  match s with
  | 'Z' :: rest => some (0, rest)
  | 'z' :: rest => some (0, rest)
  | '+' :: rest => (readHoursMinutes rest).map fun (n, rest) => ((n : Int), rest)
  | '-' :: rest => (readHoursMinutes rest).map fun (n, rest) => (-(n : Int), rest)
  | '\u2212' :: rest => (readHoursMinutes rest).map fun (n, rest) => (-(n : Int), rest)
  | a :: b :: c :: rest =>
    if a.toUpper = 'U' ∧ b.toUpper = 'T' ∧ c.toUpper = 'C' then some (0, rest) else none
  | _ => none

/-- The second at which a local date and time fall, at an offset of less than a day. -/
def ofLocal? (date : Date) (hour minute second nanos : Nat) (offset : Int) : Option Instant :=
  let onClock := date.toDays * 86400 + (hour * 3600 + minute * 60 + min second 59 : Nat)
  if date.Valid ∧ hour < 24 ∧ minute < 60 ∧ second ≤ 60 ∧ offset.natAbs < 86400 ∧
      earliest ≤ onClock ∧ onClock ≤ latest then
    ofParts? (onClock - offset) (if second = 60 then nanos + 1000000000 else nanos)
  else none

def read (s : List Char) : Option Instant := do
  let (date, s) ← readDate s
  let s ← readSeparator s
  let ((hour, minute, second), s) ← readTime s
  let (nanos, s) ← readFraction s
  let (offset, s) ← readOffset (dropBlanks s)
  if (dropBlanks s).isEmpty then ofLocal? date hour minute second nanos offset else none

end ArbitratedEscrow.Instant
