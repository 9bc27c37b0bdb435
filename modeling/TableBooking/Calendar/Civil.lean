/-!
# Civil dates

Days of the proleptic Gregorian calendar by year, month and day of the month, and
their numbers counted from 1970-01-01. There is a year 0.
-/

namespace TableBooking

/-- A date by its year, month and day of the month. -/
structure Civil where
  year : Int
  month : Nat
  day : Nat
  deriving DecidableEq, Repr

namespace Civil

/-! ## The calendar -/

def isLeapYear (year : Int) : Bool :=
  year % 4 == 0 && (year % 100 != 0 || year % 400 == 0)

def monthLengths (year : Int) : List Nat :=
  [31, if isLeapYear year then 29 else 28, 31, 30, 31, 30, 31, 31, 30, 31, 30, 31]

/-- Is there such a day in the calendar? -/
def Exists (c : Civil) : Prop :=
  1 ≤ c.month ∧ c.month ≤ 12 ∧ 1 ≤ c.day ∧
    c.day ≤ (monthLengths c.year).getD (c.month - 1) 0

instance (c : Civil) : Decidable c.Exists :=
  inferInstanceAs (Decidable (_ ∧ _ ∧ _ ∧ _))

/-! ## Day numbers -/

/-- The number of days from the first day of year 1 to 1970-01-01. -/
def epochDay : Int := 719162

/-- The day number of the first day of a year. -/
def yearStart (year : Int) : Int :=
  365 * (year - 1) + (year - 1) / 4 - (year - 1) / 100 + (year - 1) / 400 - epochDay

/-- The number of days in months of some lengths. -/
def totalDays : List Nat → Nat
  | [] => 0
  | length :: lengths => length + totalDays lengths

def daysBefore (year : Int) (month : Nat) : Nat :=
  totalDays ((monthLengths year).take (month - 1))

/-- The number of days from 1970-01-01 to the date. -/
def dayNumber (c : Civil) : Int :=
  yearStart c.year + daysBefore c.year c.month + (c.day - 1)

/-- The month and the day of the month, both from 1, of a day of the year that is
counted from 0. -/
def monthAndDay : List Nat → Nat → Nat × Nat
  | [], day => (1, day + 1)
  | length :: lengths, day =>
    if day < length then (1, day + 1)
    else
      let (month, day) := monthAndDay lengths (day - length)
      (month + 1, day)

/-- The date with a given day number. Years are counted off in the calendar's
cycles of 400, 100, 4 and 1 years; the leap day is the last of its cycle. -/
def ofDayNumber (number : Int) : Civil :=
  let days := number + epochDay
  let cycles := days / 146097
  let days := days % 146097
  let centuries := min (days / 36524) 3
  let days := days - 36524 * centuries
  let olympiads := days / 1461
  let days := days % 1461
  let years := min (days / 365) 3
  let days := days - 365 * years
  let year := 400 * cycles + 100 * centuries + 4 * olympiads + years + 1
  let (month, day) := monthAndDay (monthLengths year) days.toNat
  ⟨year, month, day⟩

end Civil

end TableBooking
