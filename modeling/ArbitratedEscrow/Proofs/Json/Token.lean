import ArbitratedEscrow.Json.Basic
import ArbitratedEscrow.Json.Token
import ArbitratedEscrow.Proofs.Text.Digits
import Mathlib.Tactic.SplitIfs

/-!
# Single tokens

What is written for a string or a whole number is read back as that one token,
whatever text comes after it: the closing quote ends a string, since quotes
inside are escaped, and a number ends before a character that cannot continue
it.
-/

namespace ArbitratedEscrow.Json

/-! ### Strings -/

namespace Piece

/-- What is read for a character that was escaped: controls without a letter come as units. -/
def ofChar (c : Char) : Piece :=
  if c.toNat < 32 ∧ c ∉ ['\x08', '\t', '\n', '\x0c', '\r'] then unit c.toNat else char c

def before (piece : Piece) (read : List Piece × List Char) : List Piece × List Char :=
  (piece :: read.1, read.2)

end Piece

theorem hexValue_hexDigit {n : Nat} (small : n < 16) : hexValue (Text.hexDigit n) = some n := by
  have all : ∀ n < 16, hexValue (Text.hexDigit n) = some n := by decide
  exact all n small

theorem readPieces_letter {letter c : Char} (stands : unescape letter = some c)
    (rest : List Char) :
    readPieces ('\\' :: letter :: rest) = (readPieces rest).map (Piece.char c).before := by
  rw [readPieces, stands]
  · cases readPieces rest <;> rfl
  · rintro _ _ _ _ _ rfl
    cases stands

theorem readPieces_unit {n : Nat} (small : n < 256) (rest : List Char) :
    readPieces ('\\' :: 'u' :: '0' :: '0' :: Text.hexDigit (n / 16) :: Text.hexDigit (n % 16) ::
      rest) = (readPieces rest).map (Piece.unit n).before := by
  have spelled : hexUnit '0' '0' (Text.hexDigit (n / 16)) (Text.hexDigit (n % 16)) = some n := by
    have zero : hexValue '0' = some 0 := by decide
    have value : (0 * 16 + 0) * 16 * 16 + n / 16 * 16 + n % 16 = n := by omega
    have high := hexValue_hexDigit (show n / 16 < 16 by omega)
    have low := hexValue_hexDigit (show n % 16 < 16 by omega)
    simp only [hexUnit, zero, high, low]
    exact congrArg some (by omega)
  rw [readPieces, spelled]
  cases readPieces rest <;> rfl

theorem readPieces_plain {c : Char} (quote : c ≠ '"') (backslash : c ≠ '\\')
    (visible : ¬ c.toNat < 32) (rest : List Char) :
    readPieces (c :: rest) = (readPieces rest).map (Piece.char c).before := by
  rw [readPieces, if_neg visible]
  · cases readPieces rest <;> rfl
  · exact quote
  · rintro _ _ _ _ _ rfl
    exact False.elim (backslash rfl)
  · rintro _ _ rfl
    exact False.elim (backslash rfl)

/-- Each way to escape a character is undone by one piece. -/
theorem readPieces_escape (c : Char) (rest : List Char) :
    readPieces (escape c ++ rest) = (readPieces rest).map (Piece.ofChar c).before := by
  unfold escape
  split_ifs with quote backslash backspace tab feed page back control
  iterate 7
    · subst c
      exact readPieces_letter rfl rest
  · have unit : Piece.ofChar c = .unit c.toNat :=
      if_pos ⟨control, by simp [backspace, tab, feed, page, back]⟩
    rw [unit]
    exact readPieces_unit (by omega) rest
  · have char : Piece.ofChar c = .char c := if_neg fun unit => control unit.1
    rw [char]
    exact readPieces_plain quote backslash control rest

/-- A unit below the surrogates spells a character on its own. -/
theorem assemble_unit {n : Nat} (low : n < 0xD800) (pieces : List Piece) :
    assemble (.unit n :: pieces) = (assemble pieces).map (Char.ofNat n :: ·) := by
  have no_high : ¬ (0xD800 ≤ n ∧ n < 0xDC00) := by omega
  have no_low : ¬ (0xDC00 ≤ n ∧ n < 0xE000) := by omega
  have no_half : ¬ (0xD800 ≤ n ∧ n < 0xE000) := by omega
  cases pieces with
  | nil => simp only [assemble, if_neg no_half]
  | cons piece rest =>
    cases piece with
    | char c => simp only [assemble, if_neg no_half]
    | unit other => rw [assemble, if_neg no_high, if_neg no_low]

theorem assemble_ofChar (s : List Char) : assemble (s.map Piece.ofChar) = some s := by
  induction s with
  | nil => rfl
  | cons c rest ih =>
    rw [List.map_cons, Piece.ofChar]
    split_ifs with control
    · rw [assemble_unit (by omega), ih, Char.ofNat_toNat]
      rfl
    · rw [assemble, ih]
      rfl

/-- A text between quotes is read back, up to the closing quote. -/
theorem readString_quote (s rest : List Char) :
    readString (s.flatMap escape ++ '"' :: rest) = some (some (String.ofList s), rest) := by
  have pieces : readPieces (s.flatMap escape ++ '"' :: rest) =
      some (s.map Piece.ofChar, rest) := by
    induction s with
    | nil => rw [List.flatMap_nil, List.nil_append, readPieces, List.map_nil]
    | cons c s ih =>
      rw [List.flatMap_cons, List.append_assoc, readPieces_escape, ih, List.map_cons]
      rfl
  simp only [readString, pieces, Option.bind_eq_bind, Option.bind_some, assemble_ofChar]
  rfl

/-! ### Whole numbers -/

/-- Whether a number ends before a text. -/
def Number.Ends (rest : List Char) : Prop :=
  ∀ c ∈ rest.head?, c.isDigit = false ∧ c ≠ '.' ∧ c ≠ 'e' ∧ c ≠ 'E'

def Number.ofInt (n : Int) : Number := ⟨decide (n < 0), Text.digits n.natAbs, none, none⟩

namespace Number

theorem Ends.stops {rest : List Char} (ends : Ends rest) : Text.Stops rest :=
  fun c first => (ends c first).1

/-- No number but zero starts with a zero. -/
theorem head?_digits {n : Nat} (positive : 0 < n) : (Text.digits n).head? ≠ some '0' := by
  induction n using Nat.strongRecOn with
  | ind n ih =>
    by_cases single : n < 10
    · have all : ∀ n < 10, 0 < n → (Text.digits n).head? ≠ some '0' := by decide
      exact all n single positive
    · have first : (Text.digits (n / 10)).head? ≠ some '0' := ih _ (by omega) (by omega)
      have more : Text.digits n = Text.digits (n / 10) ++ [(n % 10).digitChar] :=
        Nat.toDigits_of_base_le (by decide) (by omega)
      obtain ⟨d, ds, spelled⟩ := List.exists_cons_of_ne_nil (Text.digits_ne_nil (n / 10))
      rw [more, spelled]
      rwa [spelled] at first

theorem readDigits_append {ds rest : List Char} (nonempty : ds ≠ [])
    (digits : ∀ c ∈ ds, c.isDigit = true) (stops : Text.Stops rest) :
    readDigits (ds ++ rest) = some (ds, rest) := by
  rw [readDigits, List.takeWhile_append_of_pos digits, List.dropWhile_append_of_pos digits,
    stops.takeWhile, stops.dropWhile, List.append_nil, if_neg (by simpa using nonempty)]

theorem readUnsigned_digits (negative : Bool) (n : Nat) {rest : List Char} (ends : Ends rest) :
    readUnsigned negative (Text.digits n ++ rest) =
      some (⟨negative, Text.digits n, none, none⟩, rest) := by
  have spelled : readDigits (Text.digits n ++ rest) = some (Text.digits n, rest) :=
    readDigits_append (Text.digits_ne_nil n) (fun _ => Text.isDigit_of_mem_digits) ends.stops
  have no_zeros : ¬ ((Text.digits n).head? = some '0' ∧ (Text.digits n).length ≠ 1) := by
    rintro ⟨zero, longer⟩
    rcases Nat.eq_zero_or_pos n with rfl | positive
    · exact longer rfl
    · exact head?_digits positive zero
  have no_fraction : readFraction rest = some (none, rest) := by
    cases rest with
    | nil => rfl
    | cons c rest =>
      rw [readFraction]
      rintro _ ⟨⟩
      exact (ends '.' rfl).2.1 rfl
  have no_exponent : readExponent rest = some (none, rest) := by
    cases rest with
    | nil => rfl
    | cons c rest =>
      obtain ⟨_, _, lower, upper⟩ := ends c rfl
      rw [readExponent]
      · rintro _ ⟨⟩
        exact lower rfl
      · rintro _ ⟨⟩
        exact upper rfl
  simp only [readUnsigned, readWhole, spelled, if_neg no_zeros, no_fraction, no_exponent,
    Option.bind_eq_bind, Option.bind_some, Option.pure_def]

theorem read_signedDigits (n : Int) {rest : List Char} (ends : Ends rest) :
    read (Text.signedDigits n ++ rest) = some (ofInt n, rest) := by
  rw [Text.signedDigits, ofInt]
  split_ifs with negative
  · rw [List.cons_append, read, readUnsigned_digits true _ ends, decide_eq_true negative]
  · obtain ⟨d, ds, spelled⟩ := List.exists_cons_of_ne_nil (Text.digits_ne_nil n.natAbs)
    have unsigned := readUnsigned_digits false n.natAbs ends
    rw [spelled, List.cons_append] at unsigned ⊢
    rw [read, unsigned, decide_eq_false negative]
    rintro _ ⟨⟩
    exact absurd (Text.isDigit_of_mem_digits (spelled ▸ List.mem_cons_self)) (by decide)

end Number

end ArbitratedEscrow.Json
