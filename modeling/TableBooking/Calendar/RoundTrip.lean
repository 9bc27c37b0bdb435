import TableBooking.Calendar.DayNumber
import TableBooking.Calendar.Text

/-!
# Reading the text of a date-time

The text of a date-time is read as that date-time, leap second and year with a sign
included (`ofText?_chars`). What is shown of it is the same text with another mark
(`exchanged_shown`).
-/

namespace TableBooking.DateTime

open TableBooking.Text

/-! ## Items -/

theorem trimStart_cons
    {c : Char} (rest : List Char)
    (seen : isBlank c = false) :
    trimStart (c :: rest) = c :: rest := by
  have noBlank : ¬ isBlank c = true := by
    rw [seen]
    exact Bool.false_ne_true
  rw [trimStart, List.dropWhile_cons_of_neg noBlank]

theorem isBlank_of_isDigit
    {c : Char}
    (digit : c.isDigit = true) :
    isBlank c = false := by
  rw [Char.isDigit_iff_toNat] at digit
  simp only [show '0'.toNat = 48 from rfl, show '9'.toNat = 57 from rfl] at digit
  simp only [isBlank, Bool.or_eq_false_iff, Bool.and_eq_false_iff, decide_eq_false_iff_not,
    beq_eq_false_iff_ne]
  omega

/-- No blanks stand before digits. -/
theorem trimStart_digits
    {digits : List Char} (rest : List Char)
    (allDigits : ∀ c ∈ digits, c.isDigit = true) (nonempty : digits ≠ []) :
    trimStart (digits ++ rest) = digits ++ rest := by
  cases digits with
  | nil => exact absurd rfl nonempty
  | cons c digits =>
      exact trimStart_cons _ (isBlank_of_isDigit (allDigits c List.mem_cons_self))

theorem readMark?_cons
    {mark : Char} (rest : List Char)
    (seen : isBlank mark = false) :
    readMark? mark (mark :: rest) = some rest := by
  rw [readMark?, trimStart_cons rest seen]
  exact if_pos rfl

theorem takeWhile_isDigit
    {digits : List Char}
    (allDigits : ∀ c ∈ digits, c.isDigit = true) :
    digits.takeWhile Char.isDigit = digits := by
  have kept :
      (digits ++ []).takeWhile Char.isDigit = digits ++ [].takeWhile Char.isDigit :=
    List.takeWhile_append_of_pos allDigits
  rwa [List.append_nil, List.takeWhile_nil, List.append_nil] at kept

/-- Digits that are as many as may be taken are taken. -/
theorem readDigits?_append
    {digits : List Char} (rest : List Char)
    (allDigits : ∀ c ∈ digits, c.isDigit = true) (nonempty : digits ≠ []) :
    readDigits? digits.length (digits ++ rest) =
      some (Nat.ofDigitChars 10 digits 0, rest) := by
  simp only [readDigits?, List.take_left, takeWhile_isDigit allDigits, if_neg nonempty,
    List.drop_left]

theorem readDigits?_padded
    {width n : Nat} (rest : List Char)
    (fits : (Nat.toDigits 10 n).length ≤ width) :
    readDigits? width (padded width n ++ rest) = some (n, rest) := by
  have read :=
    readDigits?_append rest (fun _ member => isDigit_of_mem_padded member)
      (padded_ne_nil width n)
  rwa [length_padded fits, ofDigitChars_padded] at read

theorem readField?_padded
    {n : Nat} (rest : List Char)
    (small : n < 100) :
    readField? (padded 2 n ++ rest) = some (n, rest) := by
  rw [readField?,
    trimStart_digits rest (fun _ member => isDigit_of_mem_padded member) (padded_ne_nil 2 n),
    readDigits?_padded rest ((Nat.length_toDigits_le_iff (by decide) (by decide)).2 small)]

/-! ## Years -/

/-- Digits before a hyphen are taken however many may be taken. -/
theorem readDigits?_hyphen
    (limit : Nat) {digits : List Char} (rest : List Char)
    (allDigits : ∀ c ∈ digits, c.isDigit = true) (nonempty : digits ≠ [])
    (enough : digits.length ≤ limit) :
    readDigits? limit (digits ++ '-' :: rest) =
      some (Nat.ofDigitChars 10 digits 0, '-' :: rest) := by
  have taken : ((digits ++ '-' :: rest).take limit).takeWhile Char.isDigit = digits := by
    rw [List.take_append, List.take_of_length_le enough,
      List.takeWhile_append_of_pos allDigits]
    cases limit - digits.length with
    | zero => rw [List.take_zero, List.takeWhile_nil, List.append_nil]
    | succ more =>
        rw [List.take_succ_cons, List.takeWhile_cons_of_neg (by decide), List.append_nil]
  simp only [readDigits?, taken, if_neg nonempty, List.drop_left]

/-- A year without a sign has four digits at most. -/
theorem readYear?_of_isDigit
    {first : Char} (others : List Char)
    (digit : first.isDigit = true) :
    readYear? (first :: others) =
      (readDigits? 4 (first :: others)).map fun (n, rest) => ((n : Int), rest) := by
  rw [readYear?, trimStart_cons others (isBlank_of_isDigit digit)]
  split
  · rename_i equality
    injection equality with firstEq
    subst firstEq
    exact absurd digit (by decide)
  · rename_i equality
    injection equality with firstEq
    subst firstEq
    exact absurd digit (by decide)
  · rfl

theorem readYear?_yearChars
    (year : Int) (rest : List Char) :
    readYear? (yearChars year ++ '-' :: rest) = some (year, '-' :: rest) := by
  have allDigits : ∀ c ∈ padded 4 year.natAbs, c.isDigit = true :=
    fun _ member => isDigit_of_mem_padded member
  have nonempty := padded_ne_nil 4 year.natAbs
  have signed :=
    readDigits?_hyphen (padded 4 year.natAbs ++ '-' :: rest).length rest allDigits nonempty
      (by rw [List.length_append]; omega)
  by_cases plain : 0 ≤ year ∧ year ≤ 9999
  · have fits : (Nat.toDigits 10 year.natAbs).length ≤ 4 :=
      (Nat.length_toDigits_le_iff (by decide) (by decide)).2 (by omega)
    have magnitude : (year.natAbs : Int) = year := by omega
    have read := readDigits?_padded ('-' :: rest) fits
    rw [yearChars, if_pos plain]
    cases digits : padded 4 year.natAbs with
    | nil => exact absurd digits nonempty
    | cons first others =>
        have digit : first.isDigit = true := by
          apply allDigits
          rw [digits]
          exact List.mem_cons_self
        rw [digits, List.cons_append] at read
        rw [List.cons_append, readYear?_of_isDigit _ digit, read]
        simp only [Option.map_some, magnitude]
  · rw [yearChars, if_neg plain]
    by_cases negative : year < 0
    · have magnitude : -(year.natAbs : Int) = year := by omega
      rw [if_pos negative, List.cons_append, readYear?, trimStart_cons _ (by decide)]
      simp only [signed, Option.map_some, ofDigitChars_padded, magnitude]
    · have magnitude : (year.natAbs : Int) = year := by omega
      rw [if_neg negative, List.cons_append, readYear?, trimStart_cons _ (by decide)]
      simp only [signed, Option.map_some, ofDigitChars_padded, magnitude]

/-! ## Fractions of a second -/

/-- Digits at the end are a fraction in units of their last place. -/
theorem readFraction?_padded
    {width n : Nat}
    (fits : (Nat.toDigits 10 n).length ≤ width) (atMostNine : width ≤ 9) :
    readFraction? ('.' :: padded width n) = some (n * Nat.pow 10 (9 - width), []) := by
  have allDigits : ∀ c ∈ padded width n, c.isDigit = true :=
    fun _ member => isDigit_of_mem_padded member
  have dropped : (padded width n).dropWhile Char.isDigit = [] := by
    have rest :
        (padded width n ++ []).dropWhile Char.isDigit = [].dropWhile Char.isDigit :=
      List.dropWhile_append_of_pos allDigits
    rwa [List.append_nil, List.dropWhile_nil] at rest
  have nine : (padded width n).take 9 = padded width n :=
    List.take_of_length_le (by rw [length_padded fits]; exact atMostNine)
  simp only [readFraction?, takeWhile_isDigit allDigits, if_neg (padded_ne_nil width n), nine,
    ofDigitChars_padded, length_padded fits, dropped]

theorem readFraction?_fractionChars
    {nano : Nat}
    (small : nano < 1_000_000_000) :
    readFraction? (fractionChars nano) = some (nano, []) := by
  by_cases zero : nano = 0
  · rw [fractionChars, if_pos zero, zero]
    rfl
  · rw [fractionChars, if_neg zero]
    by_cases millis : nano % 1_000_000 = 0
    · rw [if_pos millis, readFraction?_padded
        ((Nat.length_toDigits_le_iff (by decide) (by decide)).2 (by omega)) (by decide)]
      have whole : nano / 1_000_000 * Nat.pow 10 (9 - 3) = nano := by
        simp only [Nat.reduceSub, show Nat.pow 10 6 = 1_000_000 from rfl]
        omega
      rw [whole]
    · rw [if_neg millis]
      by_cases micros : nano % 1_000 = 0
      · rw [if_pos micros, readFraction?_padded
          ((Nat.length_toDigits_le_iff (by decide) (by decide)).2 (by omega)) (by decide)]
        have whole : nano / 1_000 * Nat.pow 10 (9 - 6) = nano := by
          simp only [Nat.reduceSub, show Nat.pow 10 3 = 1_000 from rfl]
          omega
        rw [whole]
      · rw [if_neg micros, readFraction?_padded
          ((Nat.length_toDigits_le_iff (by decide) (by decide)).2 (by omega)) (by decide)]
        have whole : nano * Nat.pow 10 (9 - 9) = nano := Nat.mul_one nano
        rw [whole]

/-! ## Date-times -/

/-- The date and the time of day of a date-time make that date-time. -/
theorem ofFields?_parts
    (t : DateTime) :
    ofFields? t.date (t.second / 3600) (t.second / 60 % 60)
        (t.second % 60 + t.nano / 1_000_000_000) (t.nano % 1_000_000_000) =
      some t := by
  have existing : t.date.Exists := Civil.exists_ofDayNumber t.day
  have number : t.date.dayNumber = t.day := Civil.dayNumber_ofDayNumber t.day
  have day_ge := t.day_ge
  have day_le := t.day_le
  have second_lt := t.second_lt
  have nano_lt := t.nano_lt
  have leap_last := t.leap_last
  have fits :
      t.date.Exists ∧ -96465292 ≤ t.date.dayNumber ∧ t.date.dayNumber ≤ 95026236 ∧
        t.second / 3600 < 24 ∧ t.second / 60 % 60 < 60 ∧
        t.second % 60 + t.nano / 1_000_000_000 ≤ 60 ∧
        t.nano % 1_000_000_000 < 1_000_000_000 :=
    ⟨existing, by omega, by omega, by omega, by omega, by omega, by omega⟩
  unfold ofFields?
  rw [dif_pos fits]
  by_cases leap : t.second % 60 + t.nano / 1_000_000_000 = 60
  · rw [dif_pos leap]
    exact congrArg some
      (DateTime.ext number (by dsimp only; omega) (by dsimp only; omega))
  · rw [dif_neg leap]
    exact congrArg some
      (DateTime.ext number (by dsimp only; omega) (by dsimp only; omega))

theorem ofText?_chars
    (t : DateTime) :
    ofText? (chars 'T' t) = some t := by
  have existing : t.date.Exists := Civil.exists_ofDayNumber t.day
  have second_lt := t.second_lt
  have nano_lt := t.nano_lt
  have leap_last := t.leap_last
  have day_small : t.date.day < 100 := by
    have bounded := Civil.day_le_of_exists existing
    omega
  have month_small : t.date.month < 100 := by
    have bounded := existing.2.1
    omega
  simp only [chars, dateChars, timeChars, List.append_assoc, List.cons_append, ofText?,
    readYear?_yearChars, readMark?_cons _ (show isBlank '-' = false by decide),
    readMark?_cons _ (show isBlank 'T' = false by decide),
    readMark?_cons _ (show isBlank ':' = false by decide),
    readField?_padded _ month_small, readField?_padded _ day_small,
    readField?_padded _ (show t.second / 3600 < 100 by omega),
    readField?_padded _ (show t.second / 60 % 60 < 100 by omega),
    readField?_padded _ (show t.second % 60 + t.nano / 1_000_000_000 < 100 by omega),
    readFraction?_fractionChars (show t.nano % 1_000_000_000 < 1_000_000_000 by omega),
    Option.bind_eq_bind, Option.bind_some]
  exact (if_pos rfl).trans (ofFields?_parts t)

/-! ## Shown texts -/

/-- The text with its blank replaced by the mark of the texts that are exchanged. -/
def exchanged (shown : String) : String :=
  shown.map fun c => if c = ' ' then 'T' else c

theorem blank_notMem_padded
    (width n : Nat) :
    ' ' ∉ padded width n := by
  intro member
  exact absurd (isDigit_of_mem_padded member) (by decide)

theorem blank_notMem_dateChars
    (date : Civil) :
    ' ' ∉ dateChars date := by
  have year : ' ' ∉ yearChars date.year := by
    unfold yearChars
    split
    · exact blank_notMem_padded 4 date.year.natAbs
    · split
      · simp [blank_notMem_padded]
      · simp [blank_notMem_padded]
  simp [dateChars, year, blank_notMem_padded]

theorem blank_notMem_timeChars
    (t : DateTime) :
    ' ' ∉ timeChars t := by
  have fraction : ' ' ∉ fractionChars (t.nano % 1_000_000_000) := by
    unfold fractionChars
    split
    · exact List.not_mem_nil
    · split
      · simp [blank_notMem_padded]
      · split
        · simp [blank_notMem_padded]
        · simp [blank_notMem_padded]
  simp [timeChars, fraction, blank_notMem_padded]

/-- A date-time is shown as it is exchanged, with a blank for the mark. -/
theorem exchanged_shown
    (t : DateTime) :
    exchanged t.shown = t.text := by
  have kept {part : List Char} (noBlank : ' ' ∉ part) :
      part.map (fun c => if c = ' ' then 'T' else c) = part := by
    rw [List.map_congr_left (g := id), List.map_id]
    intro c member
    have different : c ≠ ' ' := by
      rintro rfl
      exact noBlank member
    exact if_neg different
  rw [exchanged, shown, text, ← String.toList_inj, String.toList_map, String.toList_ofList,
    String.toList_ofList, chars, chars, List.map_append, List.map_cons,
    kept (blank_notMem_dateChars t.date), kept (blank_notMem_timeChars t), if_pos rfl]

end TableBooking.DateTime
