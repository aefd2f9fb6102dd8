import ArbitratedEscrow.Text.Blank
import ArbitratedEscrow.Text.Digits
import Mathlib.Algebra.Group.Nat.Defs

/-!
# Numbers at the start of a text

Digits that come before something else are read to their end, and a number that
was padded with zeros is read as the same number.
-/

namespace ArbitratedEscrow.Text

/-- Whether digits end before a text. -/
def Stops (rest : List Char) : Prop := ∀ c ∈ rest.head?, c.isDigit = false

theorem stops_cons {c : Char} (other : c.isDigit = false) (rest : List Char) :
    Stops (c :: rest) := by
  rintro _ ⟨⟩
  exact other

namespace Stops

variable {rest : List Char}

theorem take (stops : Stops rest) (most : Nat) : Stops (rest.take most) := by
  intro c first
  rw [List.head?_take] at first
  split at first
  · cases first
  · exact stops c first

theorem takeWhile (stops : Stops rest) : rest.takeWhile Char.isDigit = [] := by
  cases rest with
  | nil => rfl
  | cons c rest => simp [stops c rfl]

theorem dropWhile (stops : Stops rest) : rest.dropWhile Char.isDigit = rest := by
  cases rest with
  | nil => rfl
  | cons c rest => simp [stops c rfl]

end Stops

theorem isBlank_of_isDigit {c : Char} (digit : c.isDigit = true) : isBlank c = false := by
  have range : 48 ≤ c.toNat ∧ c.toNat ≤ 57 := Char.isDigit_iff_toNat.mp digit
  simp only [isBlank, Bool.or_eq_false_iff, Bool.and_eq_false_iff, decide_eq_false_iff_not,
    beq_eq_false_iff_ne]
  omega

theorem isDigit_of_mem_digits {n : Nat} {c : Char} (member : c ∈ digits n) : c.isDigit = true :=
  Nat.isDigit_of_mem_toDigits (by decide) (by decide) member

/-! ### Padded numbers -/

variable {width n : Nat}

theorem padded_ne_nil (width n : Nat) : padded width n ≠ [] := by
  simp [padded, digits_ne_nil]

theorem isDigit_of_mem_padded {c : Char} (member : c ∈ padded width n) : c.isDigit = true := by
  rcases List.mem_append.mp member with zero | digit
  · rw [List.eq_of_mem_replicate zero]
    rfl
  · exact isDigit_of_mem_digits digit

@[simp] theorem ofDigits_padded (width n : Nat) : ofDigits (padded width n) = n := by
  rw [padded, ofDigits, Nat.ofDigitChars_append, Nat.ofDigitChars_replicate_zero, Nat.mul_zero]
  exact ofDigits_digits n

theorem length_padded (positive : 0 < width) (fits : n < 10 ^ width) :
    (padded width n).length = width := by
  have shorter : (digits n).length ≤ width :=
    (Nat.length_toDigits_le_iff (by decide) positive).mpr fits
  rw [padded, List.length_append, List.length_replicate]
  omega

theorem dropBlanks_padded (width n : Nat) (rest : List Char) :
    dropBlanks (padded width n ++ rest) = padded width n ++ rest := by
  obtain ⟨d, ds, spelled⟩ := List.exists_cons_of_ne_nil (padded_ne_nil width n)
  have digit : d.isDigit = true := isDigit_of_mem_padded (spelled ▸ List.mem_cons_self)
  rw [spelled]
  exact dropBlanks_cons_of_not_isBlank (isBlank_of_isDigit digit) _

theorem takeWhile_take_padded {most : Nat} {rest : List Char}
    (short : (padded width n).length ≤ most) (stops : Stops rest) :
    ((padded width n ++ rest).take most).takeWhile Char.isDigit = padded width n := by
  rw [List.take_append, List.take_of_length_le short,
    List.takeWhile_append_of_pos fun _ => isDigit_of_mem_padded, (stops.take _).takeWhile,
    List.append_nil]

/-- A padded number is read as the number, if it is not too long. -/
theorem readNumber_padded {most : Nat} {rest : List Char} (short : (padded width n).length ≤ most)
    (stops : Stops rest) : readNumber most (padded width n ++ rest) = some (n, rest) := by
  rw [readNumber, takeWhile_take_padded short stops, if_neg (by simpa using padded_ne_nil width n),
    ofDigits_padded, List.drop_left]

end ArbitratedEscrow.Text
