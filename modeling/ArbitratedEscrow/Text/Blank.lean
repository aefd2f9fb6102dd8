/-!
# Blank characters

The characters with the Unicode property White_Space. Dropping leading blanks
leaves a text that does not start with one.
-/

namespace ArbitratedEscrow.Text

/-- Whether a character has the property White_Space. -/
def isBlank (c : Char) : Bool :=
  let n := c.toNat
  (0x09 ≤ n && n ≤ 0x0D) || n == 0x20 || n == 0x85 || n == 0xA0 || n == 0x1680 ||
    (0x2000 ≤ n && n ≤ 0x200A) || n == 0x2028 || n == 0x2029 || n == 0x202F || n == 0x205F ||
    n == 0x3000

def dropBlanks (s : List Char) : List Char := s.dropWhile isBlank

theorem dropBlanks_cons_of_not_isBlank {c : Char} (solid : isBlank c = false) (s : List Char) :
    dropBlanks (c :: s) = c :: s := by
  simp [dropBlanks, List.dropWhile, solid]

end ArbitratedEscrow.Text
