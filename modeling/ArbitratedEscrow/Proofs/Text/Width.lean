import ArbitratedEscrow.Text.Width

/-!
# Widths of texts that stand apart

No text takes fewer columns than none. Widths do not add up in general, since what
a text starts with may merge with what stands before it. A blank merges with
nothing, so that the width of a text before a blank is the one it has alone.
-/

namespace ArbitratedEscrow.Text

/-! ### Widths are counts -/

/-- The columns that a character may take back from what follows it. -/
def Follower.owed : Follower → Int
  | subscript | joinedConsonant | joinedLetter | joinedOdd => 1
  | _ => 0

theorem Follower.owed_nonneg (follower : Follower) : 0 ≤ follower.owed := by
  cases follower <;> simp [owed]

@[simp] theorem Follower.owed_withJoiner (follower : Follower) :
    follower.withJoiner.owed = follower.owed := by
  cases follower <;> rfl

theorem owed_alone (c : Char) : (alone c).2.owed ≤ (alone c).1 := by
  have of_kind : ∀ kind ∈ kinds, kind.2.2.owed ≤ kind.2.1 := by
    simp [kinds, Follower.owed]
  unfold alone
  cases found : kinds.find? fun kind => kind.1 c with
  | none => simp [Follower.owed]
  | some kind => simpa using of_kind kind (List.mem_of_find?_eq_some found)

theorem owed_addPart {c : Char} {old new : Follower} {columns : Int}
    (added : addPart? c old = some (columns, new)) : new.owed ≤ columns + old.owed := by
  unfold addPart? at added
  repeat' split at added
  all_goals first | contradiction | skip
  all_goals
    obtain ⟨rfl, rfl⟩ := Prod.mk.inj (Option.some.inj added)
    simp [Follower.owed]

theorem owed_addLetter {c : Char} {old new : Follower} {columns : Int}
    (added : addLetter? c old = some (columns, new)) : new.owed ≤ columns + old.owed := by
  unfold addLetter? at added
  repeat' split at added
  all_goals first | contradiction | skip
  all_goals
    obtain ⟨rfl, rfl⟩ := Prod.mk.inj (Option.some.inj added)
    simp [Follower.owed]

theorem owed_add {c : Char} {old new : Follower} {columns : Int}
    (added : add? c old = some (columns, new)) : new.owed ≤ columns + old.owed := by
  unfold add? at added
  repeat' split at added
  all_goals first
    | contradiction
    | exact owed_addPart added
    | exact owed_addLetter added
    | obtain ⟨rfl, rfl⟩ := Prod.mk.inj (Option.some.inj added)
      simp
  all_goals simp [Follower.owed]

namespace Context

theorem owed_withoutSelector (after : Context) :
    after.withoutSelector.owed ≤ after.follower.owed := by
  unfold withoutSelector
  split
  · exact Int.le_refl _
  · exact Follower.owed_nonneg _

theorem owed_ofSelector (selector : Selector) (follower : Follower) :
    (ofSelector selector follower).follower.owed ≤ follower.owed := by
  simp only [ofSelector]
  split
  · exact Int.le_refl _
  · exact Follower.owed_nonneg _

theorem owed_select {c : Char} {after : Context} {columns : Int} {new : Follower}
    (selected : after.select? c = some (columns, new)) : new.owed ≤ columns := by
  unfold select? at selected
  repeat' split at selected
  all_goals first | contradiction | skip
  all_goals
    obtain ⟨rfl, rfl⟩ := Prod.mk.inj (Option.some.inj selected)
    simp [Follower.owed]

/-- What a character may take back later, it or what follows it has put in. -/
theorem owed_step (c : Char) (after : Context) :
    (step c after).2.follower.owed ≤ (step c after).1 + after.follower.owed := by
  have nonneg := after.follower.owed_nonneg
  have without := after.owed_withoutSelector
  unfold step
  split
  · rename_i selected
    have := owed_select selected
    simp only
    omega
  · split
    · rename_i selector _
      have := owed_ofSelector selector after.withoutSelector
      simp only
      omega
    · cases added : add? c after.withoutSelector with
      | none =>
        have := owed_alone c
        simp only [Option.getD_none]
        omega
      | some result =>
        have := owed_add added
        simp only [Option.getD_some]
        omega

end Context

theorem owed_le_measure (s : List Char) {start : Int × Context}
    (enough : start.2.follower.owed ≤ start.1) :
    (measure s start).2.follower.owed ≤ (measure s start).1 := by
  -- `0 ≤ (measure s start).1` alone is no invariant: a character may take a column back
  induction s with
  | nil => exact enough
  | cons c s ih =>
    have := Context.owed_step c (measure s start).2
    simp only [measure, List.foldr_cons] at ih this ⊢
    omega

/-- No text takes fewer columns than none. -/
theorem measure_nonneg (s : List Char) : 0 ≤ (measure s (0, {})).1 :=
  Int.le_trans (Follower.owed_nonneg _) (owed_le_measure s (Int.le_refl 0))

/-! ### Texts that stand apart -/

theorem measure_append (s t : List Char) (start : Int × Context) :
    measure (s ++ t) start = measure s (measure t start) :=
  List.foldr_append

/-- What stands far behind a text shifts its columns, and nothing else. -/
theorem measure_shift (s : List Char) (columns shift : Int) (after : Context) :
    measure s (columns + shift, after) =
      ((measure s (columns, after)).1 + shift, (measure s (columns, after)).2) := by
  induction s with
  | nil => rfl
  | cons c s ih =>
    simp only [measure, List.foldr_cons] at ih ⊢
    rw [ih]
    ext1 <;> simp only
    omega

/-- Nothing that stands before a text can be drawn together with its start. -/
def Apart (s : List Char) : Prop := (measure s (0, {})).2 = {}

variable {s t : List Char} {c : Char}

theorem apart_nil : Apart [] := rfl

theorem cast_width (s : List Char) : (width s : Int) = (measure s (0, {})).1 :=
  Int.toNat_of_nonneg (measure_nonneg s)

/-- Before a text that stands apart, another one is measured as if it stood alone. -/
theorem Apart.measure_append (apart : Apart t) (s : List Char) :
    measure (s ++ t) (0, {}) =
      (((width s + width t : Nat) : Int), (measure s (0, {})).2) := by
  have start : measure t (0, {}) = (0 + (width t : Int), {}) := by
    rw [Int.zero_add, cast_width]
    exact Prod.ext rfl apart
  rw [Text.measure_append, start, measure_shift, ← cast_width, Int.natCast_add]

theorem Apart.append (left : Apart s) (right : Apart t) : Apart (s ++ t) := by
  rw [Apart, right.measure_append]
  exact left

theorem Apart.width_append (apart : Apart t) (s : List Char) :
    width (s ++ t) = width s + width t := by
  rw [width, apart.measure_append, Int.toNat_natCast]

/-! ### Plain characters -/

/-- A character of one column that means nothing to the one before it. -/
def Plain (c : Char) : Prop := Selector.ofChar? c = none ∧ alone c = (1, .other)

instance (c : Char) : Decidable (Plain c) := inferInstanceAs (Decidable (_ ∧ _))

namespace Plain

theorem step (plain : Plain c) : Context.step c {} = (1, {}) := by
  have alone : add? c (Context.withoutSelector {}) = none := rfl
  simp only [Context.step, Context.select?, plain.1, alone, plain.2, Option.getD_none]

theorem measure (plain : Plain c) : Text.measure [c] (0, {}) = (1, {}) := by
  rw [Text.measure, List.foldr_cons, List.foldr_nil, plain.step]
  rfl

theorem apart (plain : Plain c) : Apart [c] := by rw [Apart, plain.measure]

theorem width (plain : Plain c) : Text.width [c] = 1 := by
  rw [Text.width, plain.measure]
  rfl

theorem apart_cons (plain : Plain c) (apart : Apart s) : Apart (c :: s) := plain.apart.append apart

theorem width_cons (plain : Plain c) (apart : Apart s) : Text.width (c :: s) = 1 + Text.width s := by
  rw [← List.singleton_append, apart.width_append, plain.width]

variable (plain : Plain c) (n : Nat)
include plain

theorem apart_replicate : Apart (List.replicate n c) := by
  induction n with
  | zero => exact apart_nil
  | succ n ih => exact plain.apart_cons ih

theorem width_replicate : Text.width (List.replicate n c) = n := by
  induction n with
  | zero => rfl
  | succ n ih =>
    rw [List.replicate_succ, plain.width_cons (plain.apart_replicate n), ih, Nat.add_comm]

end Plain

/-! ### Blanks -/

theorem plain_blank : Plain ' ' := by decide +kernel

/-- A blank merges with nothing that stands behind it. -/
theorem step_blank (after : Context) : Context.step ' ' after = (1, {}) := by
  have unselected : after.select? ' ' = none := by
    have pictures : (within signs ' ' || within restyled ' ') = false := by decide +kernel
    have signs : (within restyled ' ' && !between 0x1F200 0x1F2FF ' ') = false := by
      decide +kernel
    have quotes : isQuote ' ' = false := by decide +kernel
    unfold Context.select?
    split <;> simp_all
  have unmerged : ∀ follower, add? ' ' follower = none := by
    intro follower
    cases follower with
    | tagLetters _ | tagDigits _ => rfl
    | lamed joiner | ya joiner | consonant joiner | orkhonI joiner =>
      cases joiner <;> decide +kernel
    | _ => decide +kernel
  simp only [Context.step, unselected, plain_blank.1, unmerged, plain_blank.2, Option.getD_none]

/-- So a text may go on in any way behind a blank. -/
theorem measure_blank (s : List Char) :
    measure (' ' :: s) (0, {}) = (1 + (width s : Int), {}) := by
  rw [cast_width, Int.add_comm, measure, List.foldr_cons, step_blank]
  rfl

theorem apart_blank (s : List Char) : Apart (' ' :: s) := by rw [Apart, measure_blank]

theorem width_blank (s : List Char) : width (' ' :: s) = 1 + width s := by
  have one := cast_width (' ' :: s)
  rw [measure_blank] at one
  omega

/-- Texts that are not too wide are filled up to one width. -/
theorem width_padRight {columns : Nat} (fits : width s ≤ columns) :
    width (padRight columns s) = columns := by
  rw [padRight, (plain_blank.apart_replicate _).width_append, plain_blank.width_replicate]
  omega

end ArbitratedEscrow.Text
