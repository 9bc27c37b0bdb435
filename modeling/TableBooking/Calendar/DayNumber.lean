import TableBooking.Calendar.Civil

/-!
# Day numbers of dates

Every integer is the day number of exactly one date. The date with a given day number
exists (`exists_ofDayNumber`) and has that number (`dayNumber_ofDayNumber`), and a date
that exists is the one with its number (`ofDayNumber_dayNumber`).
-/

namespace TableBooking.Civil

theorem isLeapYear_iff
    (year : Int) :
    isLeapYear year = true ↔
      year % 4 = 0 ∧ (year % 100 ≠ 0 ∨ year % 400 = 0) := by
  simp only [isLeapYear, Bool.and_eq_true, Bool.or_eq_true, beq_iff_eq, bne_iff_ne]

/-! ## Days within a year -/

/-- A day of the year lies in the month that is found for it, and the days up to it
are those of the months before and of the month itself. -/
theorem monthAndDay_inside
    (lengths : List Nat) (day : Nat)
    (inside : day < totalDays lengths) :
    1 ≤ (monthAndDay lengths day).1 ∧
      (monthAndDay lengths day).1 ≤ lengths.length ∧
      1 ≤ (monthAndDay lengths day).2 ∧
      (monthAndDay lengths day).2 ≤ lengths.getD ((monthAndDay lengths day).1 - 1) 0 ∧
      totalDays (lengths.take ((monthAndDay lengths day).1 - 1)) +
        (monthAndDay lengths day).2 = day + 1 := by
  induction lengths generalizing day with
  | nil => exact absurd inside (Nat.not_lt_zero day)
  | cons length lengths inductionHypothesis =>
      rw [totalDays] at inside
      by_cases first : day < length
      · simp only [monthAndDay, if_pos first, List.length_cons, Nat.sub_self,
          List.getD_cons_zero, List.take_zero, totalDays]
        omega
      · obtain ⟨positive, bounded, dayPositive, dayBounded, total⟩ :=
          inductionHypothesis (day - length) (by omega)
        simp only [monthAndDay, if_neg first, List.length_cons, Nat.add_sub_cancel]
        obtain ⟨previous, monthEq⟩ :
            ∃ previous, (monthAndDay lengths (day - length)).1 = previous + 1 :=
          ⟨_, (Nat.sub_add_cancel positive).symm⟩
        rw [monthEq] at bounded dayBounded total ⊢
        rw [List.getD_cons_succ, List.take_succ_cons, totalDays]
        simp only [Nat.add_sub_cancel] at dayBounded total
        exact ⟨by omega, by omega, dayPositive, dayBounded, by omega⟩

/-- The month and the day that are found for a day of the year are the only ones. -/
theorem monthAndDay_totalDays
    (lengths : List Nat) (previous day : Nat)
    (dayPositive : 1 ≤ day)
    (dayBounded : day ≤ lengths.getD previous 0) :
    monthAndDay lengths (totalDays (lengths.take previous) + (day - 1)) =
      (previous + 1, day) := by
  induction lengths generalizing previous with
  | nil =>
      rw [List.getD_nil] at dayBounded
      omega
  | cons length lengths inductionHypothesis =>
      cases previous with
      | zero =>
          rw [List.getD_cons_zero] at dayBounded
          rw [List.take_zero, totalDays, Nat.zero_add, monthAndDay, if_pos (by omega),
            Nat.sub_add_cancel dayPositive]
      | succ previous =>
          rw [List.getD_cons_succ] at dayBounded
          have later := inductionHypothesis previous dayBounded
          have remaining :
              length + totalDays (lengths.take previous) + (day - 1) - length =
                totalDays (lengths.take previous) + (day - 1) := by
            omega
          rw [List.take_succ_cons, totalDays, monthAndDay, if_neg (by omega), remaining,
            later]

/-- A month ends within its year. -/
theorem totalDays_take_add_getD_le
    (lengths : List Nat) (previous : Nat) :
    totalDays (lengths.take previous) + lengths.getD previous 0 ≤ totalDays lengths := by
  induction lengths generalizing previous with
  | nil => simp [totalDays]
  | cons length lengths inductionHypothesis =>
      cases previous with
      | zero =>
          rw [List.take_zero, List.getD_cons_zero, totalDays, totalDays]
          omega
      | succ previous =>
          have within := inductionHypothesis previous
          rw [List.take_succ_cons, List.getD_cons_succ, totalDays, totalDays]
          omega

/-- A year has 365 days, or 366 if it is a leap year. -/
theorem totalDays_monthLengths
    (year : Int) :
    totalDays (monthLengths year) = if isLeapYear year then 366 else 365 := by
  by_cases leap : isLeapYear year <;> simp [monthLengths, totalDays, leap]

theorem le_of_mem_monthLengths
    {year : Int} {length : Nat}
    (member : length ∈ monthLengths year) :
    length ≤ 31 := by
  have bounded : (monthLengths year).all (fun length => length ≤ 31) = true := by
    by_cases leap : isLeapYear year <;> simp [monthLengths, leap]
  exact of_decide_eq_true (List.all_eq_true.1 bounded length member)

theorem day_le_of_exists
    {c : Civil}
    (existing : c.Exists) :
    c.day ≤ 31 := by
  obtain ⟨_, _, _, dayBounded⟩ := existing
  rw [List.getD_eq_getElem?_getD] at dayBounded
  cases found : (monthLengths c.year)[c.month - 1]? with
  | none =>
      rw [found, Option.getD_none] at dayBounded
      omega
  | some length =>
      rw [found, Option.getD_some] at dayBounded
      exact Nat.le_trans dayBounded (le_of_mem_monthLengths (List.mem_of_getElem? found))

/-! ## Days within the calendar -/

theorem yearStart_succ
    (year : Int) :
    yearStart (year + 1) = yearStart year + totalDays (monthLengths year) := by
  rw [totalDays_monthLengths]
  by_cases leap : isLeapYear year = true
  · rw [if_pos leap]
    rw [isLeapYear_iff] at leap
    simp only [yearStart]
    omega
  · rw [if_neg leap]
    rw [isLeapYear_iff] at leap
    simp only [yearStart]
    omega

theorem yearStart_succ_le
    {early late : Int}
    (order : early < late) :
    yearStart (early + 1) ≤ yearStart late := by
  simp only [yearStart]
  omega

/-- The last year of a cycle of four years is a leap year, unless it ends one of the
first three centuries of a cycle of 400 years. -/
theorem isLeapYear_of_cycles
    (cycles centuries olympiads : Int)
    (olympiadsBounds : 0 ≤ olympiads ∧ olympiads ≤ 24)
    (leap : olympiads < 24 ∨ centuries = 3) :
    isLeapYear (400 * cycles + 100 * centuries + 4 * olympiads + 3 + 1) = true := by
  rw [isLeapYear_iff]
  omega

/-- The year of a day number, and the day of that year, that are counted off in the
cycles of the calendar. -/
theorem ofDayNumber_eq
    (number : Int) :
    ∃ (year : Int) (day : Nat),
      ofDayNumber number =
          ⟨year, (monthAndDay (monthLengths year) day).1,
            (monthAndDay (monthLengths year) day).2⟩ ∧
        yearStart year + day = number ∧
        day < totalDays (monthLengths year) := by
  unfold ofDayNumber
  extract_lets days cycles inCycle centuries inCentury olympiads inOlympiad years inYear year
  have daysEq : days = number + 719162 := rfl
  have cyclesEq : cycles = days / 146097 := rfl
  have inCycleEq : inCycle = days % 146097 := rfl
  have centuriesEq : centuries = min (inCycle / 36524) 3 := rfl
  have inCenturyEq : inCentury = inCycle - 36524 * centuries := rfl
  have olympiadsEq : olympiads = inCentury / 1461 := rfl
  have inOlympiadEq : inOlympiad = inCentury % 1461 := rfl
  have yearsEq : years = min (inOlympiad / 365) 3 := rfl
  have inYearEq : inYear = inOlympiad - 365 * years := rfl
  have yearEq : year = 400 * cycles + 100 * centuries + 4 * olympiads + years + 1 := rfl
  refine ⟨year, inYear.toNat, rfl, ?_⟩
  clear_value days cycles inCycle centuries inCentury olympiads inOlympiad years inYear year
  have centuriesBounds : 0 ≤ centuries ∧ centuries ≤ 3 := by omega
  have olympiadsBounds : 0 ≤ olympiads ∧ olympiads ≤ 24 := by omega
  have yearsBounds : 0 ≤ years ∧ years ≤ 3 := by omega
  have yearInCycles :
      (year - 1) / 4 = 100 * cycles + 25 * centuries + olympiads ∧
        (year - 1) / 100 = 4 * cycles + centuries ∧ (year - 1) / 400 = cycles := by
    omega
  have inYearNonneg : 0 ≤ inYear := by omega
  have fromStart : yearStart year + inYear = number := by
    simp only [yearStart, epochDay, yearInCycles]
    omega
  have inYearBounded : inYear < totalDays (monthLengths year) := by
    rw [totalDays_monthLengths]
    by_cases ordinary : inYear < 365
    · split <;> omega
    · obtain ⟨lastYear, dayEq, leapCycle⟩ :
          years = 3 ∧ inYear = 365 ∧ (olympiads < 24 ∨ centuries = 3) := by
        omega
      rw [yearEq, lastYear,
        if_pos (isLeapYear_of_cycles cycles centuries olympiads olympiadsBounds leapCycle)]
      omega
  exact ⟨by omega, by omega⟩

theorem exists_ofDayNumber
    (number : Int) :
    (ofDayNumber number).Exists := by
  obtain ⟨year, day, equality, _, inside⟩ := ofDayNumber_eq number
  obtain ⟨positive, bounded, dayPositive, dayBounded, _⟩ :=
    monthAndDay_inside (monthLengths year) day inside
  rw [equality]
  exact ⟨positive, bounded, dayPositive, dayBounded⟩

theorem dayNumber_ofDayNumber
    (number : Int) :
    (ofDayNumber number).dayNumber = number := by
  obtain ⟨year, day, equality, fromStart, inside⟩ := ofDayNumber_eq number
  obtain ⟨_, _, _, _, total⟩ := monthAndDay_inside (monthLengths year) day inside
  rw [equality]
  simp only [dayNumber, daysBefore]
  omega

/-- The day number of a date lies in the year of the date. -/
theorem dayNumber_bounds
    {c : Civil}
    (existing : c.Exists) :
    yearStart c.year ≤ c.dayNumber ∧ c.dayNumber < yearStart (c.year + 1) := by
  obtain ⟨_, _, dayPositive, dayBounded⟩ := existing
  have within := totalDays_take_add_getD_le (monthLengths c.year) (c.month - 1)
  rw [yearStart_succ]
  simp only [dayNumber, daysBefore]
  omega

theorem ofDayNumber_dayNumber
    {c : Civil}
    (existing : c.Exists) :
    ofDayNumber c.dayNumber = c := by
  obtain ⟨year, day, equality, fromStart, inside⟩ := ofDayNumber_eq c.dayNumber
  have bounds := dayNumber_bounds existing
  have next := yearStart_succ year
  have yearEq : year = c.year := by
    rcases Int.lt_trichotomy year c.year with earlier | same | later
    · have order := yearStart_succ_le earlier
      omega
    · exact same
    · have order := yearStart_succ_le later
      omega
  subst year
  obtain ⟨monthPositive, _, dayPositive, dayBounded⟩ := existing
  have found :=
    monthAndDay_totalDays (monthLengths c.year) (c.month - 1) c.day dayPositive dayBounded
  have dayEq : day = totalDays ((monthLengths c.year).take (c.month - 1)) + (c.day - 1) := by
    simp only [dayNumber, daysBefore] at fromStart
    omega
  rw [equality, dayEq, found, Nat.sub_add_cancel monthPositive]

/-! ## The ends of the calendar -/

/-- The dates between the ends of the calendar are those of its years. -/
theorem year_bounds
    {c : Civil}
    (existing : c.Exists)
    (fromStart : -96465292 ≤ c.dayNumber)
    (toEnd : c.dayNumber ≤ 95026236) :
    -262143 ≤ c.year ∧ c.year ≤ 262142 := by
  have bounds := dayNumber_bounds existing
  have firstYear : yearStart (-262143) = -96465292 := by decide
  have nextYear : yearStart (262142 + 1) = 95026237 := by decide
  constructor
  · apply Int.not_lt.1
    intro early
    have order := yearStart_succ_le early
    omega
  · apply Int.not_lt.1
    intro late
    have order := yearStart_succ_le late
    omega

end TableBooking.Civil
