import TableBooking.Calendar.Duration
import TableBooking.Width

/-!
# Durations of whole units

A number of minutes or of days makes a duration by one product of 64-bit numbers, which may
overflow. A product that overflows is longer than any duration, so the numbers of 64 bits make
the same durations as whole numbers of any size (`ofUnits?_eq`).
-/

namespace TableBooking.Duration

/-- The greatest number of whole minutes in a duration. -/
def maxMinutes : Int := 153_722_867_280_912

/-- The duration of a number of units of some seconds each, found in 64 bits. There is none if
the product overflows or if it is too long. -/
def ofUnits? (unit count : Int64) : Option Duration :=
  (int64Product? count unit).bind fun seconds => ofSeconds? seconds.toInt 0

theorem ofSeconds?_zero
    (seconds : Int) :
    ofSeconds? seconds 0 = ofNanoseconds? (seconds * 1_000_000_000) := by
  rw [ofSeconds?, if_pos (by decide), Int.natCast_zero, Int.add_zero]

theorem ofUnits?_eq
    (unit count : Int64) :
    ofUnits? unit count = ofNanoseconds? (count.toInt * unit.toInt * 1_000_000_000) := by
  cases fits : int64Product? count unit with
  | some seconds =>
      rw [ofUnits?, fits, Option.bind_some, ofSeconds?_zero, toInt_of_int64Product? fits]
  | none =>
      -- the longest duration has fewer seconds than 64 bits can hold
      have tooLong : ¬ (-maxNanoseconds ≤ count.toInt * unit.toInt * 1_000_000_000 ∧
          count.toInt * unit.toInt * 1_000_000_000 ≤ maxNanoseconds) := by
        intro within
        unfold maxNanoseconds at within
        rw [int64Product?, if_pos (by omega)] at fits
        exact absurd fits (Option.some_ne_none _)
      rw [ofUnits?, fits, Option.bind_none, ofNanoseconds?, dif_neg tooLong]

theorem ofMinutes?_toInt
    (minutes : Int64) :
    ofMinutes? minutes.toInt = ofUnits? 60 minutes := by
  rw [ofUnits?_eq]
  rfl

theorem ofDays?_toInt
    (days : Int64) :
    ofDays? days.toInt = ofUnits? 86400 days := by
  rw [ofUnits?_eq]
  rfl

theorem ofNanoseconds?_eq_none_iff
    (nanoseconds : Int) :
    ofNanoseconds? nanoseconds = none ↔
      nanoseconds < -maxNanoseconds ∨ maxNanoseconds < nanoseconds := by
  rw [ofNanoseconds?]
  by_cases fits : -maxNanoseconds ≤ nanoseconds ∧ nanoseconds ≤ maxNanoseconds
  · rw [dif_pos fits]
    exact iff_of_false nofun (by omega)
  · rw [dif_neg fits]
    exact iff_of_true rfl (by omega)

end TableBooking.Duration
