import TableBooking.Calendar.Civil
import TableBooking.Calendar.Duration

/-!
# Dates with a time of day

A date-time is a day, a second of the day and the nanoseconds since that second. A
leap second follows second 59 of some minute; it is kept as that second with one
thousand million nanoseconds more. The calendar runs from the first day of the year
-262143 to the last day of the year 262142.

The date-times are ordered by day, second and nanosecond. Their nanoseconds since
1970 count a leap second together with the second after it.
-/

namespace TableBooking

/-- A date with a time of day. -/
@[ext]
structure DateTime where
  /-- The number of days since 1970-01-01. -/
  day : Int
  /-- The second of the day. -/
  second : Nat
  /-- The nanoseconds since that second, a thousand million or more inside a leap
  second. -/
  nano : Nat
  day_ge : -96465292 ≤ day
  day_le : day ≤ 95026236
  second_lt : second < 86400
  nano_lt : nano < 2_000_000_000
  leap_last : 1_000_000_000 ≤ nano → second % 60 = 59
  deriving DecidableEq

namespace DateTime

/-- Midnight at the start of 1970-01-01. -/
def epoch : DateTime where
  day := 0
  second := 0
  nano := 0
  day_ge := by decide
  day_le := by decide
  second_lt := by decide
  nano_lt := by decide
  leap_last := by decide

/-- The last nanosecond of the calendar outside a leap second. -/
def last : DateTime where
  day := 95026236
  second := 86399
  nano := 999999999
  day_ge := by decide
  day_le := by decide
  second_lt := by decide
  nano_lt := by decide
  leap_last := by decide

instance : Inhabited DateTime := ⟨epoch⟩

/-- Is the moment inside a leap second? -/
def InLeapSecond (t : DateTime) : Prop :=
  1_000_000_000 ≤ t.nano

instance (t : DateTime) : Decidable t.InLeapSecond :=
  inferInstanceAs (Decidable (_ ≤ _))

def date (t : DateTime) : Civil :=
  Civil.ofDayNumber t.day

/-! ## Order -/

/-- The order by day, second and nanosecond. -/
protected def Before (a b : DateTime) : Prop :=
  a.day < b.day ∨
    (a.day = b.day ∧ (a.second < b.second ∨ (a.second = b.second ∧ a.nano < b.nano)))

instance : LT DateTime := ⟨DateTime.Before⟩

instance (a b : DateTime) : Decidable (a < b) :=
  inferInstanceAs
    (Decidable (a.day < b.day ∨
      (a.day = b.day ∧ (a.second < b.second ∨ (a.second = b.second ∧ a.nano < b.nano)))))

instance : LE DateTime := ⟨fun a b => ¬ b < a⟩

instance (a b : DateTime) : Decidable (a ≤ b) :=
  inferInstanceAs (Decidable (¬ b < a))

theorem lt_iff
    (a b : DateTime) :
    a < b ↔
      a.day < b.day ∨
        (a.day = b.day ∧
          (a.second < b.second ∨ (a.second = b.second ∧ a.nano < b.nano))) :=
  Iff.rfl

/-! ## The line of nanoseconds -/

def dayNanoseconds : Int := 86400 * 1_000_000_000

/-- The number of nanoseconds from the start of 1970 to a moment. -/
def nanoseconds (t : DateTime) : Int :=
  (t.day * 86400 + t.second) * 1_000_000_000 + t.nano

/-- The moment, outside any leap second, that many nanoseconds after the start of
1970, if the calendar reaches that far. -/
def ofNanoseconds? (nanoseconds : Int) : Option DateTime :=
  if inside : -96465292 ≤ nanoseconds / dayNanoseconds ∧
      nanoseconds / dayNanoseconds ≤ 95026236 then
    some {
      day := nanoseconds / dayNanoseconds
      second := (nanoseconds % dayNanoseconds / 1_000_000_000).toNat
      nano := (nanoseconds % 1_000_000_000).toNat
      day_ge := inside.1
      day_le := inside.2
      second_lt := by
        simp only [dayNanoseconds]
        omega
      nano_lt := by omega
      leap_last := by omega }
  else none

/-- The milliseconds from the start of 1970 to a moment, rounded down. -/
def milliseconds (t : DateTime) : Int :=
  t.nanoseconds / 1_000_000

/-! ## Adding a duration -/

/-- A moment of the same second with other nanoseconds. -/
def withNano (t : DateTime) (nano : Nat) (nano_lt : nano < 2_000_000_000)
    (leap_last : 1_000_000_000 ≤ nano → t.second % 60 = 59) : DateTime :=
  { t with nano := nano, nano_lt := nano_lt, leap_last := leap_last }

/-- The moment a duration after another one, if the calendar reaches that far. A
step of less than a second that does not leave the leap second stays in it. A
longer step forward, or one that leaves it, starts from the second before; a step
back of a second or more starts from the second after. -/
def add? (t : DateTime) (d : Duration) : Option DateTime :=
  if leap : t.InLeapSecond then
    if leaves : 0 < d.seconds ∨ (0 < d.fraction ∧ 2_000_000_000 ≤ t.nano + d.fraction) then
      ofNanoseconds? (t.nanoseconds - 1_000_000_000 + d.nanoseconds)
    else if d.seconds < 0 then
      ofNanoseconds? (t.nanoseconds + d.nanoseconds)
    else
      have bounded := t.nano_lt
      some (t.withNano (t.nano + d.fraction).toNat (by omega) fun _ => t.leap_last leap)
  else ofNanoseconds? (t.nanoseconds + d.nanoseconds)

/-- The moment a duration after another one. Beyond either end of the calendar it
is the last moment. -/
def plus (t : DateTime) (d : Duration) : DateTime :=
  (t.add? d).getD last

end DateTime

end TableBooking
