import ArbitratedEscrow.Time.Calendar

/-!
# Instants

An instant is a count of whole seconds from the start of 1970 and a count of
nanoseconds after that second. A billion nanoseconds or more stand for a leap
second, which can only extend the last second of a minute. The years of an
instant run from -262143 to 262142.
-/

namespace ArbitratedEscrow

/-- The first second of the year -262143. -/
def Instant.earliest : Int := -8334601228800

/-- The last second of the year 262142. -/
def Instant.latest : Int := 8210266876799

/-- A second of the supported range and the nanoseconds after it. -/
structure Instant where
  seconds : Int
  nanos : Nat
  not_early : Instant.earliest ≤ seconds
  not_late : seconds ≤ Instant.latest
  nanos_fit : nanos < 1000000000 ∨ (seconds % 60 = 59 ∧ nanos < 2000000000)
deriving DecidableEq

namespace Instant

@[ext] theorem ext {a b : Instant} (seconds : a.seconds = b.seconds) (nanos : a.nanos = b.nanos) :
    a = b := by
  cases a
  cases b
  cases seconds
  cases nanos
  rfl

def ofParts? (seconds : Int) (nanos : Nat) : Option Instant :=
  if fits : (earliest ≤ seconds ∧ seconds ≤ latest) ∧
      (nanos < 1000000000 ∨ (seconds % 60 = 59 ∧ nanos < 2000000000)) then
    some ⟨seconds, nanos, fits.1.1, fits.1.2, fits.2⟩
  else none

/-- The start of the given second, if it is in range. -/
def ofSeconds? (seconds : Int) : Option Instant := ofParts? seconds 0

def epoch : Instant := ⟨0, 0, by decide, by decide, by decide⟩

instance : Inhabited Instant := ⟨epoch⟩

/-- The start of the second that an instant falls into. -/
def wholeSecond (t : Instant) : Instant :=
  ⟨t.seconds, 0, t.not_early, t.not_late, Or.inl (by decide)⟩

def notAfter (a b : Instant) : Bool :=
  a.seconds < b.seconds || (a.seconds == b.seconds && a.nanos ≤ b.nanos)

def date (t : Instant) : Date := Date.ofDays (t.seconds / 86400)

def secondOfDay (t : Instant) : Nat := (t.seconds % 86400).toNat

@[simp] theorem ofParts?_seconds_nanos (t : Instant) : ofParts? t.seconds t.nanos = some t := by
  simp [ofParts?, t.not_early, t.not_late, t.nanos_fit]

@[simp] theorem ofSeconds?_seconds (t : Instant) : ofSeconds? t.seconds = some t.wholeSecond := by
  simp [ofSeconds?, ofParts?, t.not_early, t.not_late, wholeSecond]

end Instant

end ArbitratedEscrow
