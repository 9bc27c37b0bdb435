import TableBooking.Calendar.DateTime

/-!
# Date-times on the line of nanoseconds

Outside leap seconds the order of date-times is the order of their nanoseconds since 1970
(`lt_iff_nanoseconds_lt`). A sum that leaves the calendar is taken as its last moment. For a
time before that moment this makes no difference to a comparison (`le_plus_iff`,
`plus_le_iff`).
-/

namespace TableBooking.DateTime

/-- The first nanosecond of the calendar. -/
def firstNanosecond : Int := -96465292 * dayNanoseconds

/-- The first nanosecond after the calendar. -/
def endNanosecond : Int := 95026237 * dayNanoseconds

/-! ## Order -/

theorem nanoseconds_lt_of_lt
    {early late : DateTime}
    (ordinary : ¬ early.InLeapSecond)
    (order : early < late) :
    early.nanoseconds < late.nanoseconds := by
  have withinSecond : early.nano < 1_000_000_000 := Nat.not_le.1 ordinary
  have withinDay := early.second_lt
  simp only [nanoseconds]
  rcases (lt_iff early late).1 order with day | ⟨sameDay, second | ⟨sameSecond, nano⟩⟩
  · omega
  · omega
  · omega

theorem lt_asymm
    {a b : DateTime}
    (order : a < b) :
    ¬ b < a := by
  rw [lt_iff] at order ⊢
  omega

theorem eq_or_lt_or_gt
    (a b : DateTime) :
    a = b ∨ a < b ∨ b < a := by
  by_cases same : a.day = b.day ∧ a.second = b.second ∧ a.nano = b.nano
  · exact Or.inl (DateTime.ext same.1 same.2.1 same.2.2)
  · rw [lt_iff, lt_iff]
    omega

theorem lt_iff_nanoseconds_lt
    {a b : DateTime}
    (ordinaryLeft : ¬ a.InLeapSecond)
    (ordinaryRight : ¬ b.InLeapSecond) :
    a < b ↔ a.nanoseconds < b.nanoseconds := by
  constructor
  · exact nanoseconds_lt_of_lt ordinaryLeft
  · intro order
    rcases eq_or_lt_or_gt a b with same | less | greater
    · rw [same] at order
      exact absurd order (Int.lt_irrefl _)
    · exact less
    · exact absurd (nanoseconds_lt_of_lt ordinaryRight greater) (Int.lt_asymm order)

theorem le_iff_nanoseconds_le
    {a b : DateTime}
    (ordinaryLeft : ¬ a.InLeapSecond)
    (ordinaryRight : ¬ b.InLeapSecond) :
    a ≤ b ↔ a.nanoseconds ≤ b.nanoseconds := by
  rw [← Int.not_lt, ← lt_iff_nanoseconds_lt ordinaryRight ordinaryLeft]
  exact Iff.rfl

/-! ## Moments of the calendar -/

theorem firstNanosecond_le
    (t : DateTime) :
    firstNanosecond ≤ t.nanoseconds := by
  have fromStart := t.day_ge
  simp only [firstNanosecond, dayNanoseconds, nanoseconds]
  omega

theorem nanoseconds_lt_end
    {t : DateTime}
    (ordinary : ¬ t.InLeapSecond) :
    t.nanoseconds < endNanosecond := by
  have withinSecond : t.nano < 1_000_000_000 := Nat.not_le.1 ordinary
  have withinDay := t.second_lt
  have toEnd := t.day_le
  simp only [endNanosecond, dayNanoseconds, nanoseconds]
  omega

theorem nanoseconds_of_ofNanoseconds?
    {n : Int} {t : DateTime}
    (found : ofNanoseconds? n = some t) :
    ¬ t.InLeapSecond ∧ t.nanoseconds = n := by
  rw [ofNanoseconds?] at found
  split at found
  · obtain rfl := Option.some.inj found
    simp only [InLeapSecond, nanoseconds, dayNanoseconds]
    omega
  · exact absurd found nofun

theorem ofNanoseconds?_eq_none_iff
    (n : Int) :
    ofNanoseconds? n = none ↔ n < firstNanosecond ∨ endNanosecond ≤ n := by
  have dayInside :
      (-96465292 ≤ n / dayNanoseconds ∧ n / dayNanoseconds ≤ 95026236) ↔
        ¬ (n < firstNanosecond ∨ endNanosecond ≤ n) := by
    simp only [firstNanosecond, endNanosecond, dayNanoseconds]
    omega
  by_cases outside : n < firstNanosecond ∨ endNanosecond ≤ n
  · rw [ofNanoseconds?, dif_neg fun inside => dayInside.1 inside outside]
    exact iff_of_true rfl outside
  · rw [ofNanoseconds?, dif_pos (dayInside.2 outside)]
    exact iff_of_false nofun outside

/-! ## Sums -/

theorem add?_of_ordinary
    {t : DateTime}
    (ordinary : ¬ t.InLeapSecond)
    (d : Duration) :
    t.add? d = ofNanoseconds? (t.nanoseconds + d.nanoseconds) :=
  dif_neg ordinary

/-- A step forward either adds its nanoseconds or leaves the calendar at its end. -/
theorem plus_forward
    {t : DateTime} {d : Duration}
    (ordinary : ¬ t.InLeapSecond)
    (forward : 0 ≤ d.nanoseconds) :
    (¬ (t.plus d).InLeapSecond ∧
        (t.plus d).nanoseconds = t.nanoseconds + d.nanoseconds) ∨
      (t.plus d = last ∧ endNanosecond ≤ t.nanoseconds + d.nanoseconds) := by
  rw [plus, add?_of_ordinary ordinary]
  cases sum : ofNanoseconds? (t.nanoseconds + d.nanoseconds) with
  | some moment => exact Or.inl (nanoseconds_of_ofNanoseconds? sum)
  | none =>
      -- a step forward from a moment of the calendar does not end before it
      have fromStart := firstNanosecond_le t
      rcases (ofNanoseconds?_eq_none_iff _).1 sum with below | beyond
      · omega
      · exact Or.inr ⟨rfl, beyond⟩

section Comparison

variable {t time : DateTime} {d : Duration}

theorem le_plus_iff
    (ordinary : ¬ t.InLeapSecond)
    (forward : 0 ≤ d.nanoseconds)
    (ordinaryTime : ¬ time.InLeapSecond)
    (beforeEnd : time < last) :
    time ≤ t.plus d ↔ time.nanoseconds ≤ t.nanoseconds + d.nanoseconds := by
  have inside := nanoseconds_lt_end ordinaryTime
  rcases plus_forward ordinary forward with ⟨ordinarySum, sum⟩ | ⟨atEnd, beyond⟩
  · rw [le_iff_nanoseconds_le ordinaryTime ordinarySum, sum]
  · rw [atEnd]
    exact iff_of_true (lt_asymm beforeEnd) (by omega)

theorem plus_le_iff
    (ordinary : ¬ t.InLeapSecond)
    (forward : 0 ≤ d.nanoseconds)
    (ordinaryTime : ¬ time.InLeapSecond)
    (beforeEnd : time < last) :
    t.plus d ≤ time ↔ t.nanoseconds + d.nanoseconds ≤ time.nanoseconds := by
  have inside := nanoseconds_lt_end ordinaryTime
  rcases plus_forward ordinary forward with ⟨ordinarySum, sum⟩ | ⟨atEnd, beyond⟩
  · rw [le_iff_nanoseconds_le ordinarySum ordinaryTime, sum]
  · rw [atEnd]
    exact iff_of_false (fun notBefore => notBefore beforeEnd) (by omega)

end Comparison

end TableBooking.DateTime
