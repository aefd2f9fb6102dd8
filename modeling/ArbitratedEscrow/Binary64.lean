import ArbitratedEscrow.Text.Digits

/-!
# Double precision numbers

The finite numbers of IEEE 754 binary64, held exactly: a sign, a mantissa below
`2 ^ 53` and a power of two from -1074 to 971. `nearest` rounds a quotient of
natural numbers to the nearest magnitude, a tie to the even mantissa, so that
every rounding in the library is one of exact integers.
-/

namespace ArbitratedEscrow

/-- A finite double: `mantissa * 2 ^ power`, negated if `negative`. -/
structure Binary64 where
  negative : Bool
  mantissa : Nat
  power : Int
deriving DecidableEq, Repr

namespace Binary64

/-- A quotient rounded to the nearest integer, a tie to the even one. -/
def roundQuotient (num den : Nat) : Nat :=
  let q := num / den
  let twice := 2 * (num % den)
  if twice < den then q
  else if den < twice then q + 1
  else if q % 2 = 0 then q else q + 1

def timesPower (num den : Nat) (power : Int) : Nat × Nat :=
  if 0 ≤ power then (num * Nat.pow 2 power.toNat, den)
  else (num, den * Nat.pow 2 (-power).toNat)

/-- The power of two at which a positive quotient has a mantissa of 53 bits, or -1074. -/
def powerFor (num den : Nat) : Int :=
  let guess : Int := (num.log2 : Int) - den.log2 - 53
  let (n, d) := timesPower num den (-guess)
  max (if n / d < Nat.pow 2 53 then guess else guess + 1) (-1074)

/-- The double next to a quotient; none if it lies beyond the finite range. -/
def nearest (negative : Bool) (num den : Nat) : Option Binary64 :=
  if num = 0 then some ⟨negative, 0, -1074⟩
  else
    let power := powerFor num den
    let (n, d) := timesPower num den (-power)
    let mantissa := roundQuotient n d
    let rounded : Nat × Int :=
      if mantissa = Nat.pow 2 53 then (Nat.pow 2 52, power + 1) else (mantissa, power)
    if 971 < rounded.2 then none else some ⟨negative, rounded.1, rounded.2⟩

def magnitude (x : Binary64) : Nat × Nat := timesPower x.mantissa 1 x.power

/-- A magnitude rounded to a number of decimal places, a tie to the even digit. -/
def fixed (places : Nat) (x : Binary64) : List Char :=
  let (num, den) := x.magnitude
  let scaled := roundQuotient (num * Nat.pow 10 places) den
  let whole := Text.digits (scaled / Nat.pow 10 places)
  (if x.negative then ['-'] else []) ++ whole ++
    (if places = 0 then [] else '.' :: Text.padded places (scaled % Nat.pow 10 places))

/-! ### Shortest decimals -/

structure Decimal where
  coefficient : Nat
  place : Int
deriving DecidableEq, Repr

def timesTen (num den : Nat) (place : Int) : Nat × Nat :=
  if 0 ≤ place then (num * Nat.pow 10 place.toNat, den)
  else (num, den * Nat.pow 10 (-place).toNat)

def placeAbove (num den : Nat) : Nat → Int → Int
  | 0, place => place
  | fuel + 1, place =>
    let (n, d) := timesTen 1 1 place
    if num * d < n * den then place else placeAbove num den fuel (place + 1)

/--
Whether a decimal rounds to a positive double: it lies between the midpoints to
the neighbours, which count if the mantissa is even. All is measured in quarters
of the mantissa's unit.
-/
def roundsTo (x : Binary64) (decimal : Decimal) : Bool :=
  let (n, d) := timesTen decimal.coefficient 1 decimal.place
  let (num, den) := timesPower (4 * n) d (-x.power)
  let above := 4 * x.mantissa + 2
  let below :=
    if x.mantissa = Nat.pow 2 52 ∧ -1074 < x.power then 4 * x.mantissa - 1 else 4 * x.mantissa - 2
  if x.mantissa % 2 = 0 then below * den ≤ num && num ≤ above * den
  else below * den < num && num < above * den

/-- The better of the two decimals around a positive double at a place, if one reads back. -/
def atPlace (x : Binary64) (place : Int) : Option Decimal :=
  let (n, d) := x.magnitude
  let (num, den) := timesTen n d (-place)
  let low := num / den
  let close := roundQuotient num den
  let far := if close = low then low + 1 else low
  if roundsTo x ⟨close, place⟩ then some ⟨close, place⟩
  else if roundsTo x ⟨far, place⟩ then some ⟨far, place⟩
  else none

/-- The decimal of fewest digits that reads back as a positive double, the nearest of those. -/
def shortest (x : Binary64) : Decimal :=
  let (num, den) := x.magnitude
  let guess : Int := ((num.log2 : Int) - den.log2 - 1) * 30103 / 100000 - 1
  let top := placeAbove num den 5 guess
  let found := (List.range 17).findSome? fun n => atPlace x (top - (n + 1 : Nat))
  found.getD ⟨roundQuotient num den, 0⟩

def trimZeros : Nat → Decimal → Decimal
  | 0, d => d
  | fuel + 1, d =>
    if d.coefficient % 10 = 0 ∧ d.coefficient ≠ 0 then
      trimZeros fuel ⟨d.coefficient / 10, d.place + 1⟩
    else d

/--
The text of a double: the fewest digits that read back, positional from `1e-5`
to below `1e16`, with at least one digit on either side of the point; else one
digit before the point and an exponent with its sign.
-/
def text (x : Binary64) : List Char :=
  let sign := if x.negative then ['-'] else []
  if x.mantissa = 0 then sign ++ ['0', '.', '0']
  else
    let d := trimZeros 400 x.shortest
    let ds := Text.digits d.coefficient
    let point := (ds.length : Int) + d.place
    sign ++
      if 0 ≤ d.place ∧ point ≤ 16 then
        ds ++ List.replicate d.place.toNat '0' ++ ['.', '0']
      else if 0 < point ∧ point ≤ 16 then
        ds.take point.toNat ++ '.' :: ds.drop point.toNat
      else if -5 < point ∧ point ≤ 0 then
        '0' :: '.' :: List.replicate (-point).toNat '0' ++ ds
      else
        let fraction := if ds.length = 1 then [] else '.' :: ds.drop 1
        let sign := if 0 < point then ['+'] else []
        ds.take 1 ++ fraction ++ 'e' :: sign ++ Text.signedDigits (point - 1)

/-! ### Reading decimals -/

def mul (x y : Binary64) : Option Binary64 :=
  let (a, b) := x.magnitude
  let (c, d) := y.magnitude
  nearest (x.negative != y.negative) (a * c) (b * d)

def div (x y : Binary64) : Option Binary64 :=
  let (a, b) := x.magnitude
  let (c, d) := y.magnitude
  nearest (x.negative != y.negative) (a * d) (b * c)

def tenTo (n : Nat) : Option Binary64 := nearest false (Nat.pow 10 n) 1

def scaleDown (unit x : Binary64) (place : Int) : Option (Binary64 × Int) :=
  if place < -308 ∧ x.mantissa ≠ 0 then
    match x.div unit with
    | some smaller => scaleDown unit smaller (place + 308)
    | none => none
  else some (x, place)
termination_by place.natAbs

/--
A 64-bit coefficient at a decimal place: the coefficient is rounded to a double
and then multiplied or divided by powers of ten, which rounds once more for each.
No double if the magnitude is beyond the finite range.
-/
def ofDecimal (coefficient : UInt64) (place : Int) : Option Binary64 := do
  let start ← nearest false coefficient.toNat 1
  let (x, place) ← scaleDown (← tenTo 308) start place
  if x.mantissa = 0 then return x
  else if 308 < place then none
  else if 0 ≤ place then x.mul (← tenTo place.toNat)
  else x.div (← tenTo (-place).toNat)

def withSign (negative : Bool) (x : Binary64) : Binary64 := { x with negative }

end Binary64

end ArbitratedEscrow
