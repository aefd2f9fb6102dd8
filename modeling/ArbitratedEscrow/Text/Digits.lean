/-!
# Decimal digits

Natural numbers in decimal. `digits` writes the fewest digits and `ofDigits`
reads any number of them; reading gives back what was written.
-/

namespace ArbitratedEscrow.Text

/-- The fewest decimal digits that spell a number. -/
def digits (n : Nat) : List Char := Nat.toDigits 10 n

def digitValue (c : Char) : Nat := c.toNat - '0'.toNat

def ofDigits (ds : List Char) : Nat := Nat.ofDigitChars 10 ds 0

@[simp] theorem ofDigits_digits (n : Nat) : ofDigits (digits n) = n :=
  Nat.ofDigitChars_toDigits (by decide) (by decide)

theorem digits_ne_nil (n : Nat) : digits n ≠ [] := Nat.toDigits_ne_nil

/-- The digits of a number, with zeros in front up to a width. -/
def padded (width n : Nat) : List Char :=
  let ds := digits n
  List.replicate (width - ds.length) '0' ++ ds

def signedDigits (n : Int) : List Char :=
  if n < 0 then '-' :: digits n.natAbs else digits n.natAbs

def ofNat (n : Nat) : String := String.ofList (digits n)

def ofUInt64 (n : UInt64) : String := ofNat n.toNat

/--
The number at the start of a text, of one to `most` digits, with the rest of
the text. Digits beyond `most` belong to the rest.
-/
def readNumber (most : Nat) (s : List Char) : Option (Nat × List Char) :=
  let ds := (s.take most).takeWhile Char.isDigit
  if ds.isEmpty then none else some (ofDigits ds, s.drop ds.length)

end ArbitratedEscrow.Text
