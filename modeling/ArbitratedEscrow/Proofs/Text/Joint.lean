import ArbitratedEscrow.Text.Hex
import Mathlib.Algebra.Group.Nat.Defs
import Mathlib.Data.List.Basic

/-!
# Texts with a joint between them

Two texts with a third one between them, the joint, make one text. From the whole
it is clear what was joined, unless the joint can slide: the first text goes on
with what reads as the joint again (`joined_eq_iff`). Without a joint every
letter can go from one text to the other.
-/

namespace ArbitratedEscrow.Text

/-- A text in two parts, twice: the longer first part takes a piece of the other second one. -/
theorem append_eq_append_iff {a b c d : String} :
    a ++ b = c ++ d ↔ (∃ s, c = a ++ s ∧ b = s ++ d) ∨ ∃ s, a = c ++ s ∧ d = s ++ b := by
  constructor
  · intro same
    have letters : a.toList ++ b.toList = c.toList ++ d.toList := by
      rw [← String.toList_append, same, String.toList_append]
    rcases List.append_eq_append_iff.mp letters with ⟨s, first, second⟩ | ⟨s, first, second⟩
    · refine Or.inl ⟨String.ofList s, ?_, ?_⟩ <;> rw [← String.toList_inj] <;> simpa
    · refine Or.inr ⟨String.ofList s, ?_, ?_⟩ <;> rw [← String.toList_inj] <;> simpa
  · rintro (⟨s, rfl, rfl⟩ | ⟨s, rfl, rfl⟩)
    · exact String.append_assoc.symm
    · exact String.append_assoc

/--
The joint between two texts also stands further back, between two other texts:
the first of these goes on, and what it goes on with ends in the joint again.
-/
def Slides (joint a b a' b' : String) : Prop :=
  ∃ s t, s ≠ "" ∧ a' = a ++ s ∧ b = t ++ b' ∧ joint ++ t = s ++ joint

variable {joint a b a' b' : String}

theorem Slides.joined (slides : Slides joint a b a' b') :
    a ++ joint ++ b = a' ++ joint ++ b' := by
  obtain ⟨s, t, _, rfl, rfl, same⟩ := slides
  calc a ++ joint ++ (t ++ b') = a ++ (joint ++ t) ++ b' := by simp only [String.append_assoc]
    _ = a ++ s ++ joint ++ b' := by rw [same]; simp only [String.append_assoc]

/-- What comes after the first joint up to the second one has room for the second one. -/
theorem slides_or_eq {s : String} (first : a' = a ++ s) (rest : joint ++ b = s ++ (joint ++ b')) :
    (a = a' ∧ b = b') ∨ Slides joint a b a' b' := by
  by_cases empty : s = ""
  · subst empty
    rw [String.empty_append] at rest
    rw [String.append_empty] at first
    exact Or.inl ⟨first.symm, (String.append_right_inj joint).mp rest⟩
  · rw [← String.append_assoc] at rest
    rcases append_eq_append_iff.mp rest with ⟨t, same, second⟩ | ⟨t, same, second⟩
    · exact Or.inr ⟨s, t, empty, first, second, same.symm⟩
    · -- here the joint would be longer than something with the joint in it
      have lengths : joint.length = s.length + joint.length + t.length := by
        have := congrArg String.length same
        rwa [String.length_append, String.length_append] at this
      have none : s.length = 0 := by omega
      exact absurd (by simpa using none) empty

/-- What was joined can be told from the whole, unless the joint slides one way or the other. -/
theorem joined_eq_iff : a ++ joint ++ b = a' ++ joint ++ b' ↔
    (a = a' ∧ b = b') ∨ Slides joint a b a' b' ∨ Slides joint a' b' a b := by
  constructor
  · intro same
    rw [String.append_assoc, String.append_assoc] at same
    rcases append_eq_append_iff.mp same with ⟨s, first, rest⟩ | ⟨s, first, rest⟩
    · rcases slides_or_eq first rest with equal | slides
      · exact Or.inl equal
      · exact Or.inr (Or.inl slides)
    · rcases slides_or_eq first rest with ⟨one, two⟩ | slides
      · exact Or.inl ⟨one.symm, two.symm⟩
      · exact Or.inr (Or.inr slides)
  · rintro (⟨rfl, rfl⟩ | slides | slides)
    · rfl
    · exact slides.joined
    · exact slides.joined.symm

/-- The text that ends further back is the longer one. -/
theorem Slides.length_lt (slides : Slides joint a b a' b') : a.length < a'.length := by
  obtain ⟨s, t, filled, rfl, _, _⟩ := slides
  have longer : s.length ≠ 0 := by simpa using filled
  rw [String.length_append]
  omega

/-- It holds a character that the joint begins with. -/
theorem Slides.mem {c : Char} {rest : List Char} (slides : Slides joint a b a' b')
    (begins : joint.toList = c :: rest) : c ∈ a'.toList := by
  obtain ⟨s, t, filled, rfl, _, same⟩ := slides
  have letters : c :: (rest ++ t.toList) = s.toList ++ joint.toList := by
    rw [← String.toList_append, ← same, String.toList_append, begins, List.cons_append]
  cases read : s.toList with
  | nil => exact absurd (by simpa using read) filled
  | cons first others =>
    rw [read, List.cons_append] at letters
    have head : c = first := (List.cons.inj letters).1
    simp [read, head]

/-- After the last mark there is nothing to confuse. -/
theorem eq_of_append_cons {α : Type} {x y d e : List α} {mark : α} (d_free : mark ∉ d)
    (e_free : mark ∉ e) (same : x ++ mark :: d = y ++ mark :: e) : x = y ∧ d = e := by
  rcases List.append_eq_append_iff.mp same with ⟨s, first, rest⟩ | ⟨s, first, rest⟩
  · cases s with
    | nil => exact ⟨by simpa using first.symm, by simpa using rest⟩
    | cons c s =>
      have inside : d = s ++ mark :: e := (List.cons.inj rest).2
      exact absurd (by simp [inside]) d_free
  · cases s with
    | nil => exact ⟨by simpa using first, by simpa using rest.symm⟩
    | cons c s =>
      have inside : e = s ++ mark :: d := (List.cons.inj rest).2
      exact absurd (by simp [inside]) e_free

/-! ### Bytes -/

theorem utf8_append (s t : String) : utf8 (s ++ t) = utf8 s ++ utf8 t := by
  simp [utf8]

/-- A text can be told from its bytes. -/
theorem utf8_inj {s t : String} (same : utf8 s = utf8 t) : s = t := by
  have encoded : s.toList.utf8Encode = t.toList.utf8Encode :=
    congrArg List.toByteArray same
  have bytes : (String.ofList s.toList).toByteArray = (String.ofList t.toList).toByteArray :=
    encoded
  rwa [String.toByteArray_inj, String.ofList_toList, String.ofList_toList] at bytes

/-- A number can be told from its bytes if they are enough for it. -/
theorem bigEndian_inj {count m n : Nat} (m_fits : m < 256 ^ count) (n_fits : n < 256 ^ count)
    (same : bigEndian count m = bigEndian count n) : m = n := by
  induction count generalizing m n with
  | zero => omega
  | succ count ih =>
    rw [Nat.pow_succ] at m_fits n_fits
    rw [bigEndian, bigEndian] at same
    obtain ⟨front, last⟩ := List.append_inj same (by simp)
    have high : m / 256 = n / 256 := ih (by omega) (by omega) front
    have low : m % 256 = n % 256 := by
      have bytes : UInt8.ofNat (m % 256) = UInt8.ofNat (n % 256) := (List.cons.inj last).1
      have values := congrArg UInt8.toNat bytes
      simpa using values
    omega

end ArbitratedEscrow.Text
