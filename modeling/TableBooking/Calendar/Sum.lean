import TableBooking.Calendar.Timeline

/-!
# Sums of moments and durations

A step forward stays in the leap second that it starts from, or it reaches a moment outside
leap seconds, or it leads past the end of the calendar (`forward_add?`). It never reaches an
earlier moment than the one it starts from (`le_of_add?`), and a longer step never reaches an
earlier moment than a shorter one (`add?_le_add?`).

The same step from a later moment does not always reach a later moment (`plus_le_plus`). A
moment inside a leap second loses that second on a step out of it, which the moments just
before do not (`Setback`).
-/

namespace TableBooking.DateTime

/-! ## The order of moments -/

/-- The number of whole seconds since 1970. It stands still inside a leap second. -/
def clock (t : DateTime) : Int :=
  t.day * 86400 + t.second

theorem nanoseconds_eq
    (t : DateTime) :
    t.nanoseconds = t.clock * 1_000_000_000 + t.nano :=
  rfl

theorem le_iff
    (a b : DateTime) :
    a ≤ b ↔ a.clock < b.clock ∨ (a.clock = b.clock ∧ a.nano ≤ b.nano) := by
  have withinDay := a.second_lt
  have otherWithinDay := b.second_lt
  change ¬ b < a ↔ _
  rw [lt_iff]
  simp only [clock]
  omega

instance : Std.IsLinearOrder DateTime where
  le_refl a := by
    rw [le_iff]
    omega
  le_trans a b c := by
    rw [le_iff, le_iff, le_iff]
    omega
  le_antisymm a b := by
    have withinDay := a.second_lt
    have otherWithinDay := b.second_lt
    rw [le_iff, le_iff, DateTime.ext_iff]
    simp only [clock]
    omega
  le_total a b := by
    rw [le_iff, le_iff]
    omega

instance : Std.LawfulOrderLT DateTime where
  lt_iff a b := by
    change a < b ↔ ¬ b < a ∧ ¬¬ a < b
    rw [Decidable.not_not]
    exact ⟨fun order => ⟨lt_asymm order, order⟩, fun order => order.2⟩

/-! ## The last second of the calendar -/

theorem clock_le_last
    (t : DateTime) :
    t.clock ≤ last.clock := by
  have withinDay := t.second_lt
  have toEnd := t.day_le
  simp only [clock, last]
  omega

theorem endNanosecond_eq : endNanosecond = (last.clock + 1) * 1_000_000_000 := by
  decide

theorem le_last_of_ordinary
    {t : DateTime}
    (ordinary : ¬ t.InLeapSecond) :
    t ≤ last := by
  have withinSecond : t.nano < 1_000_000_000 := Nat.not_le.1 ordinary
  have toEnd := clock_le_last t
  have lastNano : last.nano = 999_999_999 := rfl
  rw [le_iff]
  omega

/-! ## Steps forward -/

/-- Where on the line of nanoseconds a step out of the second of a moment starts: for a moment
inside a leap second, at the same place of the second before. -/
def departure (t : DateTime) : Int :=
  if t.InLeapSecond then t.nanoseconds - 1_000_000_000 else t.nanoseconds

theorem departure_of_leap
    {t : DateTime}
    (leap : t.InLeapSecond) :
    t.departure = t.nanoseconds - 1_000_000_000 :=
  if_pos leap

theorem departure_of_ordinary
    {t : DateTime}
    (ordinary : ¬ t.InLeapSecond) :
    t.departure = t.nanoseconds :=
  if_neg ordinary

theorem departure_bounds
    (t : DateTime) :
    t.clock * 1_000_000_000 ≤ t.departure ∧
      t.departure < (t.clock + 1) * 1_000_000_000 := by
  have bounded := t.nano_lt
  by_cases leap : t.InLeapSecond
  · have inside : 1_000_000_000 ≤ t.nano := leap
    rw [departure_of_leap leap, nanoseconds_eq]
    omega
  · have withinSecond : t.nano < 1_000_000_000 := Nat.not_le.1 leap
    rw [departure_of_ordinary leap, nanoseconds_eq]
    omega

theorem firstNanosecond_le_departure
    (t : DateTime) :
    firstNanosecond ≤ t.departure := by
  have fromStart := t.day_ge
  have fromSecond := (departure_bounds t).1
  simp only [clock] at fromSecond
  simp only [firstNanosecond, dayNanoseconds]
  omega

/-- Does a step forward stay inside the leap second that it starts from? -/
def Stays (t : DateTime) (d : Duration) : Prop :=
  t.InLeapSecond ∧ t.nano + d.nanoseconds < 2_000_000_000

instance (t : DateTime) (d : Duration) : Decidable (t.Stays d) :=
  inferInstanceAs (Decidable (_ ∧ _))

/-- What a step forward comes to. -/
inductive Forward (t : DateTime) (d : Duration) : Option DateTime → Prop
  | stays {sum : DateTime} :
      t.Stays d → sum.clock = t.clock → sum.nano = t.nano + d.nanoseconds →
      Forward t d (some sum)
  | reaches {sum : DateTime} :
      ¬ t.Stays d → ¬ sum.InLeapSecond → sum.nanoseconds = t.departure + d.nanoseconds →
      Forward t d (some sum)
  | ends :
      ¬ t.Stays d → endNanosecond ≤ t.departure + d.nanoseconds →
      Forward t d none

theorem forward_ofNanoseconds?
    {t : DateTime} {d : Duration}
    (forward : 0 ≤ d.nanoseconds)
    (leaves : ¬ t.Stays d) :
    Forward t d (ofNanoseconds? (t.departure + d.nanoseconds)) := by
  cases sum : ofNanoseconds? (t.departure + d.nanoseconds) with
  | some moment =>
      obtain ⟨ordinary, reached⟩ := nanoseconds_of_ofNanoseconds? sum
      exact .reaches leaves ordinary reached
  | none =>
      have fromStart := firstNanosecond_le_departure t
      rcases (ofNanoseconds?_eq_none_iff _).1 sum with below | beyond
      · omega
      · exact .ends leaves beyond

theorem forward_add?
    (t : DateTime) {d : Duration}
    (forward : 0 ≤ d.nanoseconds) :
    Forward t d (t.add? d) := by
  by_cases leap : t.InLeapSecond
  · have inside : 1_000_000_000 ≤ t.nano := leap
    have seconds : d.seconds = d.nanoseconds / 1_000_000_000 :=
      Int.tdiv_eq_ediv_of_nonneg forward
    have fraction : d.fraction = d.nanoseconds % 1_000_000_000 :=
      Int.tmod_eq_emod_of_nonneg forward
    rw [add?, dif_pos leap]
    by_cases leaves :
        0 < d.seconds ∨ (0 < d.fraction ∧ 2_000_000_000 ≤ t.nano + d.fraction)
    · -- the sum counts from the second before, as from the departure
      have notStays : ¬ t.Stays d := fun stays => by
        have within := stays.2
        omega
      rw [dif_pos leaves, ← departure_of_leap leap]
      exact forward_ofNanoseconds? forward notStays
    · have bounded := t.nano_lt
      rw [dif_neg leaves, if_neg (by omega)]
      exact .stays ⟨leap, by omega⟩ rfl (by simp only [withNano]; omega)
  · rw [add?_of_ordinary leap, ← departure_of_ordinary leap]
    exact forward_ofNanoseconds? forward fun stays => leap stays.1

theorem le_departure_add_of_leaves
    {t : DateTime} {d : Duration}
    (leap : t.InLeapSecond)
    (leaves : ¬ t.Stays d) :
    (t.clock + 1) * 1_000_000_000 ≤ t.departure + d.nanoseconds := by
  have out : 2_000_000_000 ≤ t.nano + d.nanoseconds := by
    rw [Stays, not_and] at leaves
    exact Int.not_lt.1 (leaves leap)
  rw [departure_of_leap leap, nanoseconds_eq]
  omega

/-- A moment outside leap seconds is not before another one if the line of nanoseconds says
so, and if it is past the leap second that the other one may be in. -/
theorem le_of_nanoseconds
    {a b : DateTime}
    (ordinary : ¬ b.InLeapSecond)
    (onLine : a.departure ≤ b.nanoseconds)
    (pastLeap : a.InLeapSecond → (a.clock + 1) * 1_000_000_000 ≤ b.nanoseconds) :
    a ≤ b := by
  have withinSecond : b.nano < 1_000_000_000 := Nat.not_le.1 ordinary
  rw [nanoseconds_eq] at onLine pastLeap
  rw [le_iff]
  by_cases leap : a.InLeapSecond
  · have past := pastLeap leap
    omega
  · rw [departure_of_ordinary leap, nanoseconds_eq] at onLine
    omega

/-! ## Longer steps -/

section Longer

variable {t short long : DateTime} {d e : Duration}

theorem le_of_add?
    (forward : 0 ≤ d.nanoseconds)
    (sum : t.add? d = some short) :
    t ≤ short := by
  have step := forward_add? t forward
  rw [sum] at step
  cases step with
  | stays _ sameSecond nano =>
      rw [le_iff]
      omega
  | reaches leaves ordinary reached =>
      refine le_of_nanoseconds ordinary (by omega) fun leap => ?_
      rw [reached]
      exact le_departure_add_of_leaves leap leaves

theorem not_stays_of_le
    (longer : d.nanoseconds ≤ e.nanoseconds)
    (leaves : ¬ t.Stays d) :
    ¬ t.Stays e := by
  intro stays
  have within := stays.2
  exact leaves ⟨stays.1, by omega⟩

theorem add?_le_add?
    (forward : 0 ≤ d.nanoseconds)
    (longer : d.nanoseconds ≤ e.nanoseconds)
    (shortSum : t.add? d = some short)
    (longSum : t.add? e = some long) :
    short ≤ long := by
  have shortStep := forward_add? t forward
  have longStep := forward_add? t (Int.le_trans forward longer)
  rw [shortSum] at shortStep
  rw [longSum] at longStep
  cases longStep with
  | stays stays sameSecond nano =>
      cases shortStep with
      | stays _ shortSecond shortNano =>
          rw [le_iff]
          omega
      | reaches leaves _ _ => exact absurd stays (not_stays_of_le longer leaves)
  | reaches leaves ordinary reached =>
      cases shortStep with
      | stays stays shortSecond shortNano =>
          have ended := le_departure_add_of_leaves stays.1 leaves
          have withinSecond : long.nano < 1_000_000_000 := Nat.not_le.1 ordinary
          rw [nanoseconds_eq] at reached
          rw [le_iff]
          omega
      | reaches _ shortOrdinary shortReached =>
          rw [le_iff_nanoseconds_le shortOrdinary ordinary]
          omega

theorem exists_add?_of_le
    (forward : 0 ≤ d.nanoseconds)
    (longer : d.nanoseconds ≤ e.nanoseconds)
    (longSum : t.add? e = some long) :
    ∃ short, t.add? d = some short := by
  have shortStep := forward_add? t forward
  have longStep := forward_add? t (Int.le_trans forward longer)
  rw [longSum] at longStep
  cases sum : t.add? d with
  | some short => exact ⟨short, rfl⟩
  | none =>
      rw [sum] at shortStep
      cases shortStep with
      | ends leaves beyond =>
          cases longStep with
          | stays stays _ _ => exact absurd stays (not_stays_of_le longer leaves)
          | reaches _ ordinary reached =>
              have inside := nanoseconds_lt_end ordinary
              omega

end Longer

/-! ## Steps out of the calendar -/

/-- Does the step lead past the end of the calendar? -/
def PastEnd (t : DateTime) (d : Duration) : Prop :=
  0 ≤ d.nanoseconds ∧ ¬ t.Stays d ∧ endNanosecond ≤ t.departure + d.nanoseconds

/-- Does the step lead back before the start of the calendar? -/
def BeforeStart (t : DateTime) (d : Duration) : Prop :=
  d.nanoseconds < 0 ∧ t.nanoseconds + d.nanoseconds < firstNanosecond

instance (t : DateTime) (d : Duration) : Decidable (t.PastEnd d) :=
  inferInstanceAs (Decidable (_ ∧ _ ∧ _))

instance (t : DateTime) (d : Duration) : Decidable (t.BeforeStart d) :=
  inferInstanceAs (Decidable (_ ∧ _))

theorem pastEnd_iff
    (t : DateTime) (d : Duration) :
    t.PastEnd d ↔ 0 ≤ d.nanoseconds ∧ t.add? d = none := by
  apply and_congr_right
  intro forward
  have step := forward_add? t forward
  constructor
  · rintro ⟨leaves, beyond⟩
    cases sum : t.add? d with
    | none => rfl
    | some moment =>
        rw [sum] at step
        cases step with
        | stays stays _ _ => exact absurd stays leaves
        | reaches _ ordinary reached =>
            have inside := nanoseconds_lt_end ordinary
            omega
  · intro missing
    rw [missing] at step
    cases step with
    | ends leaves beyond => exact ⟨leaves, beyond⟩

theorem beforeStart_iff
    (t : DateTime) (d : Duration) :
    t.BeforeStart d ↔ d.nanoseconds < 0 ∧ t.add? d = none := by
  apply and_congr_right
  intro back
  by_cases leap : t.InLeapSecond
  · have inside : 1_000_000_000 ≤ t.nano := leap
    have bounded := t.nano_lt
    have toEnd := clock_le_last t
    have fromStart := firstNanosecond_le_departure t
    rw [departure_of_leap leap] at fromStart
    have seconds : d.seconds = -(-d.nanoseconds / 1_000_000_000) := by
      rw [Duration.seconds, ← Int.tdiv_eq_ediv_of_nonneg (by omega), Int.neg_tdiv, Int.neg_neg]
    have fraction : d.fraction = -(-d.nanoseconds % 1_000_000_000) := by
      rw [Duration.fraction, ← Int.tmod_eq_emod_of_nonneg (by omega), Int.neg_tmod, Int.neg_neg]
    rw [add?, dif_pos leap, dif_neg (by omega)]
    by_cases wholeSecond : d.seconds < 0
    · rw [if_pos wholeSecond, ofNanoseconds?_eq_none_iff, endNanosecond_eq, nanoseconds_eq]
      omega
    · rw [if_neg wholeSecond]
      refine iff_of_false ?_ nofun
      omega
  · have fromStart := firstNanosecond_le t
    have toEnd := nanoseconds_lt_end leap
    rw [add?_of_ordinary leap, ofNanoseconds?_eq_none_iff]
    omega

theorem plus_of_add?
    {t sum : DateTime} {d : Duration}
    (found : t.add? d = some sum) :
    t.plus d = sum := by
  rw [plus, found, Option.getD_some]

theorem plus_of_add?_eq_none
    {t : DateTime} {d : Duration}
    (missing : t.add? d = none) :
    t.plus d = last := by
  rw [plus, missing, Option.getD_none]

theorem plus_of_outside
    {t : DateTime} {d : Duration}
    (outside : t.PastEnd d ∨ t.BeforeStart d) :
    t.plus d = last := by
  rw [pastEnd_iff, beforeStart_iff, ← or_and_right] at outside
  exact plus_of_add?_eq_none outside.2

/-! ## Later starts -/

/-- Does the clock enter a leap second in less than a second? The same step forward, if it
leaves the leap second, then comes to an earlier moment from the later of the two. -/
def Setback (early late : DateTime) : Prop :=
  late.InLeapSecond ∧ late ≤ last ∧ ¬ early.InLeapSecond ∧
    late.nanoseconds < early.nanoseconds + 1_000_000_000

instance (early late : DateTime) : Decidable (Setback early late) :=
  inferInstanceAs (Decidable (_ ∧ _))

section Later

variable {early late : DateTime} {d : Duration}

theorem departure_le_departure
    (order : early ≤ late)
    (steady : ¬ Setback early late)
    (notAfter : late ≤ last) :
    early.departure ≤ late.departure := by
  have earlyBounds := departure_bounds early
  have lateBounds := departure_bounds late
  rcases (le_iff early late).1 order with before | ⟨sameSecond, nano⟩
  · omega
  · by_cases earlyLeap : early.InLeapSecond
    · have lateLeap : late.InLeapSecond := Nat.le_trans earlyLeap nano
      rw [departure_of_leap earlyLeap, departure_of_leap lateLeap, nanoseconds_eq,
        nanoseconds_eq]
      omega
    · rw [departure_of_ordinary earlyLeap]
      by_cases lateLeap : late.InLeapSecond
      · -- the later moment is a whole second after the earlier one
        rw [departure_of_leap lateLeap]
        by_cases near : late.nanoseconds < early.nanoseconds + 1_000_000_000
        · exact absurd ⟨lateLeap, notAfter, earlyLeap, near⟩ steady
        · omega
      · rw [departure_of_ordinary lateLeap, nanoseconds_eq, nanoseconds_eq]
        omega

theorem plus_le_last
    (forward : 0 ≤ d.nanoseconds)
    (notAfter : early ≤ last) :
    early.plus d ≤ last := by
  have step := forward_add? early forward
  cases sum : early.add? d with
  | none => exact plus_of_add?_eq_none sum ▸ Std.le_refl last
  | some moment =>
      rw [plus_of_add? sum]
      rw [sum] at step
      cases step with
      | stays stays sameSecond nano =>
          have inside : 1_000_000_000 ≤ early.nano := stays.1
          have lastNano : last.nano = 999_999_999 := rfl
          rw [le_iff] at notAfter ⊢
          omega
      | reaches _ ordinary _ => exact le_last_of_ordinary ordinary

theorem le_plus
    (forward : 0 ≤ d.nanoseconds)
    (notAfter : early ≤ last) :
    early ≤ early.plus d := by
  cases sum : early.add? d with
  | none => exact plus_of_add?_eq_none sum ▸ notAfter
  | some moment => exact plus_of_add? sum ▸ le_of_add? forward sum

/-- A longer step from the same moment does not lead less far. -/
theorem plus_le_plus_of_longer
    {e : Duration}
    (forward : 0 ≤ d.nanoseconds)
    (longer : d.nanoseconds ≤ e.nanoseconds)
    (notAfter : early ≤ last) :
    early.plus d ≤ early.plus e := by
  cases longSum : early.add? e with
  | none =>
      rw [plus_of_add?_eq_none longSum]
      exact plus_le_last forward notAfter
  | some long =>
      obtain ⟨short, shortSum⟩ := exists_add?_of_le forward longer longSum
      rw [plus_of_add? longSum, plus_of_add? shortSum]
      exact add?_le_add? forward longer shortSum longSum

theorem last_le_plus
    (forward : 0 ≤ d.nanoseconds)
    (after : last < late) :
    last ≤ late.plus d := by
  cases sum : late.add? d with
  | none => exact plus_of_add?_eq_none sum ▸ Std.le_refl last
  | some moment =>
      rw [plus_of_add? sum]
      exact Std.le_trans (Std.le_of_lt after) (le_of_add? forward sum)

theorem add?_eq_none_of_departure_le
    (forward : 0 ≤ d.nanoseconds)
    (departures : early.departure ≤ late.departure)
    (missing : early.add? d = none) :
    late.add? d = none := by
  have earlyStep := forward_add? early forward
  have lateStep := forward_add? late forward
  rw [missing] at earlyStep
  cases earlyStep with
  | ends _ beyond =>
      cases sum : late.add? d with
      | none => rfl
      | some moment =>
          rw [sum] at lateStep
          cases lateStep with
          | stays stays _ _ =>
              -- the earlier sum would come before the end of the second of the later moment
              have within := stays.2
              have toEnd := clock_le_last late
              rw [departure_of_leap stays.1, nanoseconds_eq] at departures
              rw [endNanosecond_eq] at beyond
              omega
          | reaches _ ordinary reached =>
              have inside := nanoseconds_lt_end ordinary
              omega

theorem sum_le_sum
    {earlySum lateSum : DateTime}
    (order : early ≤ late)
    (forward : 0 ≤ d.nanoseconds)
    (departures : early.departure ≤ late.departure)
    (earlyFound : early.add? d = some earlySum)
    (lateFound : late.add? d = some lateSum) :
    earlySum ≤ lateSum := by
  have earlyStep := forward_add? early forward
  have lateStep := forward_add? late forward
  rw [earlyFound] at earlyStep
  rw [lateFound] at lateStep
  rw [le_iff] at order
  cases earlyStep with
  | stays earlyStays earlySecond earlyNano =>
      have inside : 1_000_000_000 ≤ early.nano := earlyStays.1
      have within := earlyStays.2
      cases lateStep with
      | stays _ lateSecond lateNano =>
          rw [le_iff]
          omega
      | reaches lateLeaves lateOrdinary lateReached =>
          -- the later sum lies after the leap second in which the earlier one stays
          have lateBounds := departure_bounds late
          have ended : (early.clock + 1) * 1_000_000_000 ≤ lateSum.nanoseconds := by
            by_cases lateLeap : late.InLeapSecond
            · have lateOver := le_departure_add_of_leaves lateLeap lateLeaves
              omega
            · have lateWithin : late.nano < 1_000_000_000 := Nat.not_le.1 lateLeap
              omega
          have withinSecond : lateSum.nano < 1_000_000_000 := Nat.not_le.1 lateOrdinary
          rw [nanoseconds_eq] at ended
          rw [le_iff]
          omega
  | reaches earlyLeaves earlyOrdinary earlyReached =>
      cases lateStep with
      | stays lateStays lateSecond lateNano =>
          have within := lateStays.2
          rw [nanoseconds_eq] at earlyReached
          rw [departure_of_leap lateStays.1, nanoseconds_eq] at departures
          rw [le_iff]
          omega
      | reaches _ lateOrdinary lateReached =>
          rw [le_iff_nanoseconds_le earlyOrdinary lateOrdinary]
          omega

theorem plus_le_plus
    (order : early ≤ late)
    (inCalendar : last < early → late ≤ early)
    (steady : ¬ Setback early late)
    (forward : 0 ≤ d.nanoseconds) :
    early.plus d ≤ late.plus d := by
  by_cases notAfter : late ≤ last
  · have departures := departure_le_departure order steady notAfter
    cases earlySum : early.add? d with
    | none =>
        rw [plus_of_add?_eq_none earlySum, plus_of_add?_eq_none
          (add?_eq_none_of_departure_le forward departures earlySum)]
        exact Std.le_refl last
    | some earlyMoment =>
        cases lateSum : late.add? d with
        | none =>
            rw [plus_of_add?_eq_none lateSum]
            exact plus_le_last forward (Std.le_trans order notAfter)
        | some lateMoment =>
            rw [plus_of_add? earlySum, plus_of_add? lateSum]
            exact sum_le_sum order forward departures earlySum lateSum
  · have after : last < late := Std.not_le.1 notAfter
    by_cases same : late ≤ early
    · rw [Std.le_antisymm order same]
      exact Std.le_refl _
    · have earlyNotAfter : early ≤ last := by
        rw [← Std.not_lt]
        exact fun earlyAfter => same (inCalendar earlyAfter)
      exact Std.le_trans (plus_le_last forward earlyNotAfter) (last_le_plus forward after)

end Later

end TableBooking.DateTime
