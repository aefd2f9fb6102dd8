import ArbitratedEscrow.Proofs.Text.Digits
import ArbitratedEscrow.Proofs.Time.Calendar
import ArbitratedEscrow.Time.Rfc3339

/-!
# Instants come back from their texts

Each part of what is written for an instant is read back up to the character
that ends it, years with a sign and leap seconds included. Date and time of day
together count the seconds of the instant again.
-/

namespace ArbitratedEscrow.Instant

open Text

variable {rest : List Char}

/-! ### Dates -/

/-- A year outside 0 to 9999 may have any number of digits, since it has a sign. -/
theorem readYear_writeYear (year : Int) (stops : Stops rest) :
    readYear (dropBlanks (writeYear year ++ rest)) = some (year, rest) := by
  rw [writeYear]
  split
  · rename_i plain
    have short : (padded 4 year.natAbs).length ≤ 4 :=
      Nat.le_of_eq (length_padded (by decide) (by omega))
    have value : (year.natAbs : Int) = year := by omega
    have number := readNumber_padded short stops
    obtain ⟨d, ds, spelled⟩ := List.exists_cons_of_ne_nil (padded_ne_nil 4 year.natAbs)
    have digit : d.isDigit = true := isDigit_of_mem_padded (spelled ▸ List.mem_cons_self)
    rw [dropBlanks_padded]
    rw [spelled, List.cons_append] at number ⊢
    rw [readYear, number]
    · exact congrArg (fun y => some (y, rest)) value
    · rintro _ ⟨⟩
      cases digit
    · rintro _ ⟨⟩
      cases digit
  · have number : readNumber (padded 4 year.natAbs ++ rest).length
        (padded 4 year.natAbs ++ rest) = some (year.natAbs, rest) :=
      readNumber_padded (by simp) stops
    rw [List.cons_append]
    split
    · rename_i negative
      have value : -(year.natAbs : Int) = year := by omega
      rw [dropBlanks_cons_of_not_isBlank (by decide), readYear, number]
      exact congrArg (fun y => some (y, rest)) value
    · rename_i nonnegative
      have value : (year.natAbs : Int) = year := by omega
      rw [dropBlanks_cons_of_not_isBlank (by decide), readYear, number]
      exact congrArg (fun y => some (y, rest)) value

theorem readTwo_padded {n : Nat} (fits : n < 100) (stops : Stops rest) :
    readTwo (padded 2 n ++ rest) = some (n, rest) := by
  rw [readTwo, dropBlanks_padded]
  exact readNumber_padded (Nat.le_of_eq (length_padded (by decide) fits)) stops

theorem expect_dropBlanks {c : Char} (solid : isBlank c = false) (rest : List Char) :
    expect c (dropBlanks (c :: rest)) = some rest := by
  rw [dropBlanks_cons_of_not_isBlank solid, expect, if_pos rfl]

theorem readDate_writeDate {date : Date} (month : date.month < 100) (day : date.day < 100)
    (stops : Stops rest) : readDate (writeDate date ++ rest) = some (date, rest) := by
  have hyphen : ∀ later, Stops ('-' :: later) := stops_cons (by decide)
  simp only [writeDate, List.append_assoc, List.cons_append]
  simp only [readDate, readYear_writeYear _ (hyphen _), Option.bind_eq_bind, Option.bind_some,
    expect_dropBlanks (by decide : isBlank '-' = false), readTwo_padded month (hyphen _),
    readTwo_padded day stops]
  rfl

/-! ### Times of day -/

theorem readTime_writeTime {secondOfDay extra : Nat} (day : secondOfDay < 86400)
    (leap : extra ≤ 1) (stops : Stops rest) :
    readTime (writeTime secondOfDay extra ++ rest) =
      some ((secondOfDay / 3600, secondOfDay / 60 % 60, secondOfDay % 60 + extra), rest) := by
  have colon : ∀ later, Stops (':' :: later) := stops_cons (by decide)
  have hour : secondOfDay / 3600 < 100 := by omega
  have minute : secondOfDay / 60 % 60 < 100 := by omega
  have second : secondOfDay % 60 + extra < 100 := by omega
  simp only [writeTime, List.append_assoc, List.cons_append]
  simp only [readTime, readTwo_padded hour (colon _), Option.bind_eq_bind, Option.bind_some,
    expect_dropBlanks (by decide : isBlank ':' = false), readTwo_padded minute (colon _),
    readTwo_padded second stops]
  rfl

/-- A fraction of fewer than nine digits counts larger parts of a second. -/
theorem readFraction_padded {width n : Nat} (positive : 0 < width) (fits : n < 10 ^ width)
    (short : width ≤ 9) (stops : Stops rest) :
    readFraction ('.' :: padded width n ++ rest) = some (n * 10 ^ (9 - width), rest) := by
  have length : (padded width n).length = width := length_padded positive fits
  have digits := takeWhile_take_padded (length.trans_le short) stops
  rw [List.cons_append, readFraction, digits, if_neg (by simpa using padded_ne_nil width n),
    ofDigits_padded, List.drop_left, length, stops.dropWhile]
  rfl

theorem stops_writeFraction {nanos : Nat} (stops : Stops rest) :
    Stops (writeFraction nanos ++ rest) := by
  rw [writeFraction]
  split_ifs
  · exact stops
  all_goals exact stops_cons (by decide) _

/-- The digits that a fraction leaves out are zeros. -/
theorem readFraction_writeFraction {nanos : Nat} (fits : nanos < 1000000000)
    (stops : Stops rest) (pointless : ∀ later, rest ≠ '.' :: later) :
    readFraction (writeFraction nanos ++ rest) = some (nanos, rest) := by
  rw [writeFraction]
  split_ifs with none millis micros
  · rw [List.nil_append, readFraction, none]
    exact pointless
  · rw [readFraction_padded (by decide) (by omega) (by decide) stops]
    exact congrArg (fun n => some (n, rest)) (by omega)
  · rw [readFraction_padded (by decide) (by omega) (by decide) stops]
    exact congrArg (fun n => some (n, rest)) (by omega)
  · rw [readFraction_padded (by decide) (by omega) (by decide) stops]
    exact congrArg (fun n => some (n, rest)) (by omega)

/-! ### Instants -/

/-- The date and the time of day of an instant are those of that instant. -/
theorem ofLocal?_date (t : Instant) :
    ofLocal? t.date (t.secondOfDay / 3600) (t.secondOfDay / 60 % 60)
      (t.secondOfDay % 60 + t.nanos / 1000000000) (t.nanos % 1000000000) 0 = some t := by
  have early := t.not_early
  have late := t.not_late
  have fit := t.nanos_fit
  have days : t.date.toDays = t.seconds / 86400 := Date.toDays_ofDays _
  have valid : t.date.Valid := Date.valid_ofDays _
  have seconds : (t.secondOfDay : Int) = t.seconds % 86400 := by
    rw [secondOfDay]
    omega
  have clock : t.date.toDays * 86400 +
      ((t.secondOfDay / 3600 * 3600 + t.secondOfDay / 60 % 60 * 60 +
        min (t.secondOfDay % 60 + t.nanos / 1000000000) 59 : Nat) : Int) = t.seconds := by
    rw [days]
    omega
  have nanos : (if t.secondOfDay % 60 + t.nanos / 1000000000 = 60 then
      t.nanos % 1000000000 + 1000000000 else t.nanos % 1000000000) = t.nanos := by
    split <;> omega
  simp only [ofLocal?, clock, nanos]
  rw [if_pos ⟨valid, by omega, by omega, by omega, by decide, early, late⟩, Int.sub_zero,
    ofParts?_seconds_nanos]

/-- What is written for an instant is read as that instant. -/
theorem read_write (t : Instant) : read t.write = some t := by
  have fit := t.nanos_fit
  have valid : t.date.Valid := Date.valid_ofDays _
  have month : t.date.month < 100 := by
    have := valid.2.1
    omega
  have day : t.date.day < 100 := by
    have := valid.2.2.2.trans (Date.daysIn_le _ _)
    omega
  have seconds : t.secondOfDay < 86400 := by
    rw [secondOfDay]
    omega
  have leap : t.nanos / 1000000000 ≤ 1 := by omega
  have letter : ∀ later, Stops ('T' :: later) := stops_cons (by decide)
  have zulu : Stops ['Z'] := stops_cons (by decide) []
  have fraction : readFraction (writeFraction (t.nanos % 1000000000) ++ ['Z']) = _ :=
    readFraction_writeFraction (Nat.mod_lt _ (by decide)) zulu (by rintro _ ⟨⟩)
  have offset : readOffset (dropBlanks ['Z']) = some (0, []) := rfl
  simp only [write, List.append_assoc, List.cons_append]
  simp only [read, readDate_writeDate month day (letter _), Option.bind_eq_bind, Option.bind_some,
    readSeparator, readTime_writeTime seconds leap (stops_writeFraction zulu), fraction, offset]
  exact ofLocal?_date t

-- the first instant of all, and the last one, in a leap second
example : rfc3339 ⟨earliest, 0, by decide, by decide, by decide⟩ = "-262143-01-01T00:00:00Z" := by
  decide +kernel

example : rfc3339 ⟨latest, 1999999999, by decide, by decide, by decide⟩ =
    "+262142-12-31T23:59:60.999999999Z" := by
  decide +kernel

end ArbitratedEscrow.Instant
