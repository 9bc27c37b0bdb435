import TableBooking.Calendar.Sum
import TableBooking.Proofs.Log

/-!
# The booking window and the clock

While the clock runs, a booking time comes from beyond the window into it, then leaves less than
the lead that is needed, and has passed at last. Up to the last moment of the calendar it never
goes back in this order, except where the clock enters a leap second (`advances_iff`).

A lead or a window that leads out of the calendar, at whichever end, is taken to end at the last
moment of the calendar (`checkTime_at_edges`). So that moment itself is accepted even if the
lead leads past it.
-/

namespace TableBooking

/-! ## Some durations -/

namespace Duration

def zero : Duration where
  nanoseconds := 0
  ge_min := by decide
  le_max := by decide

def oneSecond : Duration where
  nanoseconds := 1_000_000_000
  ge_min := by decide
  le_max := by decide

end Duration

/-! ## Timings -/

/-- Where a booking time stands to the window for bookings. -/
inductive Timing where
  | tooFar
  | accepted
  | tooSoon
  | inPast
  deriving DecidableEq

namespace Timing

def rank : Timing → Nat
  | tooFar => 0
  | accepted => 1
  | tooSoon => 2
  | inPast => 3

instance : LE Timing := ⟨fun a b => a.rank ≤ b.rank⟩

instance (a b : Timing) : Decidable (a ≤ b) :=
  inferInstanceAs (Decidable (a.rank ≤ b.rank))

/-- The code under which a booking time is refused for its timing. -/
def code? : Timing → Option ErrorCode
  | tooFar => some .bookingTimeTooFar
  | accepted => none
  | tooSoon => some .bookingTimeTooSoon
  | inPast => some .bookingTimeInPast

/-- Is the timing what the check of a booking time comes to? -/
def Tells (timing : Timing) : Except Refusal Unit → Prop
  | .ok _ => timing.code? = none
  | .error refusal => timing.code? = some refusal.report.code

theorem eq_of_code?
    {a b : Timing}
    (same : a.code? = b.code?) :
    a = b := by
  cases a <;> cases b <;> first | rfl | exact absurd same (by decide)

theorem eq_of_tells
    {a b : Timing} {result : Except Refusal Unit}
    (left : a.Tells result)
    (right : b.Tells result) :
    a = b := by
  cases result with
  | ok _ => exact eq_of_code? (left.trans right.symm)
  | error refusal => exact eq_of_code? (left.trans right.symm)

end Timing

namespace Rules

section Standing

variable {rules : Rules} {time now later : DateTime} {timing : Timing}

def Stands (rules : Rules) (time now : DateTime) : Timing → Prop
  | .inPast => time < now
  | .tooSoon => now ≤ time ∧ time < now.plus rules.minLead
  | .tooFar =>
    now ≤ time ∧ now.plus rules.minLead ≤ time ∧ now.plus rules.maxAdvance < time
  | .accepted =>
    now ≤ time ∧ now.plus rules.minLead ≤ time ∧ time ≤ now.plus rules.maxAdvance

instance (rules : Rules) (time now : DateTime) :
    (timing : Timing) → Decidable (rules.Stands time now timing)
  | .inPast => inferInstanceAs (Decidable (_ < _))
  | .tooSoon => inferInstanceAs (Decidable (_ ∧ _))
  | .tooFar => inferInstanceAs (Decidable (_ ∧ _ ∧ _))
  | .accepted => inferInstanceAs (Decidable (_ ∧ _ ∧ _))

theorem exists_stands
    (rules : Rules) (time now : DateTime) :
    ∃ timing, rules.Stands time now timing := by
  by_cases past : time < now
  · exact ⟨.inPast, past⟩
  · by_cases soon : time < now.plus rules.minLead
    · exact ⟨.tooSoon, past, soon⟩
    · by_cases far : now.plus rules.maxAdvance < time
      · exact ⟨.tooFar, past, soon, far⟩
      · exact ⟨.accepted, past, soon, far⟩

/-- What the check answers to a booking time of a timing. -/
def verdictOn (rules : Rules) (now : DateTime) : Timing → Except Refusal Unit
  | .inPast => .error .timeInPast
  | .tooSoon => .error (.timeTooSoon (now.plus rules.minLead) rules.minLead)
  | .tooFar => .error (.timeTooFar (now.plus rules.maxAdvance) rules.maxAdvance)
  | .accepted => .ok ()

theorem checkTime_of_stands
    (stands : rules.Stands time now timing) :
    rules.checkTime time now = rules.verdictOn now timing := by
  cases timing with
  | inPast =>
      have past : time < now := stands
      rw [checkTime, if_pos past, verdictOn]
  | tooSoon =>
      obtain ⟨ahead, soon⟩ := stands
      rw [checkTime, if_neg ahead, if_pos soon, verdictOn]
  | tooFar =>
      obtain ⟨ahead, leadKept, far⟩ := stands
      rw [checkTime, if_neg ahead, if_neg leadKept, if_pos far, verdictOn]
  | accepted =>
      obtain ⟨ahead, leadKept, inWindow⟩ := stands
      rw [checkTime, if_neg ahead, if_neg leadKept, if_neg inWindow, verdictOn]

theorem tells_of_stands
    (stands : rules.Stands time now timing) :
    timing.Tells (rules.checkTime time now) := by
  rw [checkTime_of_stands stands]
  cases timing <;> rfl

theorem tells_checkTime_iff
    (rules : Rules) (time now : DateTime) (timing : Timing) :
    timing.Tells (rules.checkTime time now) ↔ rules.Stands time now timing := by
  constructor
  · intro tells
    obtain ⟨found, stands⟩ := rules.exists_stands time now
    rw [Timing.eq_of_tells tells (tells_of_stands stands)]
    exact stands
  · exact tells_of_stands

/-! ## The clock runs on -/

/-- Does the check of the booking time come to the same or to a later timing at the later
moment? -/
def Advances (rules : Rules) (time now later : DateTime) : Prop :=
  ∃ before after : Timing,
    before.Tells (rules.checkTime time now) ∧
      after.Tells (rules.checkTime time later) ∧ before ≤ after

theorem le_of_stands
    {before after : Timing}
    (order : now ≤ later)
    (leads : now.plus rules.minLead ≤ later.plus rules.minLead)
    (windows : now.plus rules.maxAdvance ≤ later.plus rules.maxAdvance)
    (early : rules.Stands time now before)
    (late : rules.Stands time later after) :
    before ≤ after := by
  cases before with
  | tooFar => exact Nat.zero_le after.rank
  | accepted =>
      cases after with
      | tooFar => exact absurd (Std.lt_of_le_of_lt windows late.2.2) early.2.2
      | accepted => decide
      | tooSoon => decide
      | inPast => decide
  | tooSoon =>
      have stillSoon : time < later.plus rules.minLead := Std.lt_of_lt_of_le early.2 leads
      cases after with
      | tooFar => exact absurd stillSoon late.2.1
      | accepted => exact absurd stillSoon late.2.1
      | tooSoon => decide
      | inPast => decide
  | inPast =>
      have stillPast : time < later := Std.lt_of_lt_of_le early order
      cases after with
      | tooFar => exact absurd stillPast late.1
      | accepted => exact absurd stillPast late.1
      | tooSoon => exact absurd stillPast late.1
      | inPast => decide

theorem advances_of_steady
    (time : DateTime)
    (order : now ≤ later)
    (inCalendar : .last < now → later ≤ now)
    (steady : ¬ now.Setback later)
    (lead : 0 ≤ rules.minLead.nanoseconds)
    (window : 0 ≤ rules.maxAdvance.nanoseconds) :
    rules.Advances time now later := by
  obtain ⟨before, early⟩ := rules.exists_stands time now
  obtain ⟨after, late⟩ := rules.exists_stands time later
  refine ⟨before, after, tells_of_stands early, tells_of_stands late, ?_⟩
  exact le_of_stands order (DateTime.plus_le_plus order inCalendar steady lead)
    (DateTime.plus_le_plus order inCalendar steady window) early late

/-- What is too soon or past stays so. -/
theorem ne_ok_of_advances
    {refusal : Refusal}
    (advances : rules.Advances time now later)
    (refused : rules.checkTime time now = .error refusal)
    (notTooFar : refusal.report.code ≠ .bookingTimeTooFar) :
    rules.checkTime time later ≠ .ok () := by
  obtain ⟨before, after, tellsBefore, tellsAfter, order⟩ := advances
  intro passed
  rw [refused] at tellsBefore
  rw [passed] at tellsAfter
  obtain rfl : after = .accepted := Timing.eq_of_code? tellsAfter
  cases before with
  | tooFar => exact notTooFar (Option.some.inj tellsBefore).symm
  | accepted => exact absurd tellsBefore nofun
  | tooSoon => exact absurd order (by decide)
  | inPast => exact absurd order (by decide)

theorem not_advances_of_stands
    {before after : Timing}
    (early : rules.Stands time now before)
    (late : rules.Stands time later after)
    (back : ¬ before ≤ after) :
    ¬ rules.Advances time now later := by
  rintro ⟨first, second, tellsFirst, tellsSecond, order⟩
  rw [Timing.eq_of_tells tellsFirst (tells_of_stands early),
    Timing.eq_of_tells tellsSecond (tells_of_stands late)] at order
  exact back order

end Standing

/-! ## Where the clock sets a booking time back -/

section Setback

variable {now later : DateTime}

def within (lead window : Duration) : Rules :=
  { standard with minLead := lead, maxAdvance := window }

theorem not_advances_of_setback
    (order : now ≤ later)
    (setback : now.Setback later) :
    ∃ time, ¬ (within .oneSecond .oneSecond).Advances time now later := by
  -- the booking time is a second after the later moment; from the earlier one, which does not
  -- lose the leap second, the same second leads further
  obtain ⟨leap, notAfter, ordinary, near⟩ := setback
  have inside : 1_000_000_000 ≤ later.nano := leap
  have withinSecond : now.nano < 1_000_000_000 := Nat.not_le.1 ordinary
  have lastNano : DateTime.last.nano = 999_999_999 := rfl
  have second : Duration.oneSecond.nanoseconds = 1_000_000_000 := rfl
  have forward : 0 ≤ Duration.oneSecond.nanoseconds := by decide
  have nowLine := now.nanoseconds_eq
  have laterLine := later.nanoseconds_eq
  have calendarEnd := DateTime.endNanosecond_eq
  rw [DateTime.le_iff] at order notAfter
  have laterStep := DateTime.forward_add? later forward
  cases sum : later.add? .oneSecond with
  | none =>
      rw [sum] at laterStep
      cases laterStep with
      | ends _ beyond =>
          rw [DateTime.departure_of_leap leap] at beyond
          omega
  | some time =>
      rw [sum] at laterStep
      cases laterStep with
      | stays stays _ _ =>
          have within := stays.2
          omega
      | reaches _ timeOrdinary reached =>
          rw [DateTime.departure_of_leap leap] at reached
          have late : (within .oneSecond .oneSecond).Stands time later .accepted := by
            refine ⟨DateTime.le_of_add? forward sum, ?_, ?_⟩
            · exact (DateTime.plus_of_add? sum).symm ▸ Std.le_refl time
            · exact (DateTime.plus_of_add? sum).symm ▸ Std.le_refl time
          have early : (within .oneSecond .oneSecond).Stands time now .tooSoon := by
            refine ⟨(DateTime.le_iff_nanoseconds_le ordinary timeOrdinary).2 (by omega), ?_⟩
            change time < now.plus .oneSecond
            rcases DateTime.plus_forward ordinary forward with
              ⟨sumOrdinary, nowSum⟩ | ⟨_, beyond⟩
            · rw [DateTime.lt_iff_nanoseconds_lt timeOrdinary sumOrdinary]
              omega
            · omega
          exact ⟨time, not_advances_of_stands early late (by decide)⟩

/-- Whatever the rules are, a booking time that has passed stays so. -/
theorem tells_inPast_of_le
    {rules : Rules} {time : DateTime}
    (order : now ≤ later)
    (past : Timing.inPast.Tells (rules.checkTime time now)) :
    Timing.inPast.Tells (rules.checkTime time later) := by
  rw [tells_checkTime_iff] at past ⊢
  exact Std.lt_of_lt_of_le past order

/-- Unless the clock enters a leap second between the two moments, the check of a booking time
comes to the same or to a later timing at the later moment, and what is too soon or past is not
accepted any more. Where the clock does, this fails under some rules for some booking time. What
is past stays past in any case. -/
theorem advances_iff
    (order : now ≤ later) :
    ((.last < now → later ≤ now) →
      ((∀ (rules : Rules) (time : DateTime),
        0 ≤ rules.minLead.nanoseconds → 0 ≤ rules.maxAdvance.nanoseconds →
          rules.Advances time now later ∧
            ∀ refusal, rules.checkTime time now = .error refusal →
              refusal.report.code ≠ .bookingTimeTooFar →
                rules.checkTime time later ≠ .ok ()) ↔
        ¬ now.Setback later)) ∧
    ∀ (rules : Rules) (time : DateTime), Timing.inPast.Tells (rules.checkTime time now) →
      Timing.inPast.Tells (rules.checkTime time later) := by
  refine ⟨?_, fun rules time => tells_inPast_of_le order⟩
  intro inCalendar
  constructor
  · intro all setback
    obtain ⟨time, back⟩ := not_advances_of_setback order setback
    exact back (all _ time (by decide) (by decide)).1
  · intro steady rules time lead window
    have advances := advances_of_steady time order inCalendar steady lead window
    exact ⟨advances, fun refusal => ne_ok_of_advances advances⟩

end Setback

end Rules

/-! ### Leap seconds -/

namespace Sample

def secondRules : Rules :=
  .within .oneSecond .thirtyDays

def minuteEnd : DateTime :=
  { DateTime.epoch with
    second := 59
    second_lt := by decide
    leap_last := by decide }

def nextMinute : DateTime :=
  { DateTime.epoch with
    second := 60
    second_lt := by decide
    leap_last := by decide }

def beforeLeap : DateTime :=
  minuteEnd.withNano 900_000_000 (by decide) (by decide)

def insideLeap : DateTime :=
  minuteEnd.withNano 1_200_000_000 (by decide) (by decide)

def afterLeap : DateTime :=
  nextMinute.withNano 500_000_000 (by decide) (by decide)

def halfSecondRules : Rules :=
  .within .zero ⟨500_000_000, by decide, by decide⟩

def afterLast : DateTime :=
  DateTime.last.withNano 1_200_000_000 insideLeap.nano_lt (by decide)

def laterAfterLast : DateTime :=
  DateTime.last.withNano 1_600_000_000 (by decide) (by decide)

end Sample

namespace Rules

/-- A booking time that is too soon before a leap second is accepted inside it. One that is in
the window in the leap second after the last moment is too far later in that second. -/
theorem retreats_at_leapSecond :
    (0 ≤ Sample.secondRules.minLead.nanoseconds ∧
      0 ≤ Sample.secondRules.maxAdvance.nanoseconds ∧ Sample.beforeLeap ≤ Sample.insideLeap) ∧
    (Timing.tooSoon.Tells (Sample.secondRules.checkTime Sample.afterLeap Sample.beforeLeap) ∧
      Sample.secondRules.checkTime Sample.afterLeap Sample.insideLeap = .ok ()) ∧
    ¬ Sample.secondRules.Advances Sample.afterLeap Sample.beforeLeap Sample.insideLeap ∧
    (Sample.afterLast < Sample.laterAfterLast ∧
      ¬ Sample.halfSecondRules.Advances Sample.laterAfterLast Sample.afterLast
        Sample.laterAfterLast) := by
  have early : Sample.secondRules.Stands Sample.afterLeap Sample.beforeLeap .tooSoon := by
    decide
  have late : Sample.secondRules.Stands Sample.afterLeap Sample.insideLeap .accepted := by
    decide
  have inWindow :
      Sample.halfSecondRules.Stands Sample.laterAfterLast Sample.afterLast .accepted := by
    decide
  have beyond :
      Sample.halfSecondRules.Stands Sample.laterAfterLast Sample.laterAfterLast .tooFar := by
    decide
  refine ⟨by decide, ⟨tells_of_stands early, rfl⟩, ?_, by decide, ?_⟩
  · exact not_advances_of_stands early late (by decide)
  · exact not_advances_of_stands inWindow beyond (by decide)

theorem advances_after_leapSecond :
    (Sample.insideLeap ≤ Sample.nextMinute ∧
      (.last < Sample.insideLeap → Sample.nextMinute ≤ Sample.insideLeap) ∧
      ¬ Sample.insideLeap.Setback Sample.nextMinute ∧
      0 ≤ Sample.secondRules.minLead.nanoseconds ∧
      0 ≤ Sample.secondRules.maxAdvance.nanoseconds) ∧
    Sample.secondRules.Advances Sample.afterLeap Sample.insideLeap Sample.nextMinute := by
  have order : Sample.insideLeap ≤ Sample.nextMinute := by decide
  have inCalendar : .last < Sample.insideLeap → Sample.nextMinute ≤ Sample.insideLeap := by
    decide
  have steady : ¬ Sample.insideLeap.Setback Sample.nextMinute := by decide
  have lead : 0 ≤ Sample.secondRules.minLead.nanoseconds := by decide
  have window : 0 ≤ Sample.secondRules.maxAdvance.nanoseconds := by decide
  refine ⟨⟨order, inCalendar, steady, lead, window⟩, ?_⟩
  exact (((advances_iff order).1 inCalendar).2 steady Sample.secondRules Sample.afterLeap
    lead window).1

/-! ## The ends of the calendar -/

/-- A lead or a window that leads out of the calendar ends at the last moment of the calendar,
whichever end it leads past. -/
theorem checkTime_at_edges
    (rules : Rules) (time now : DateTime) :
    (now.PastEnd rules.minLead ∨ now.BeforeStart rules.minLead →
      (Timing.accepted.Tells (rules.checkTime time now) ↔
        now ≤ time ∧ .last ≤ time ∧ time ≤ now.plus rules.maxAdvance) ∧
      (Timing.tooSoon.Tells (rules.checkTime time now) ↔ now ≤ time ∧ time < .last)) ∧
    (now.PastEnd rules.maxAdvance ∨ now.BeforeStart rules.maxAdvance →
      (Timing.accepted.Tells (rules.checkTime time now) ↔
        now ≤ time ∧ now.plus rules.minLead ≤ time ∧ time ≤ .last) ∧
      (Timing.tooFar.Tells (rules.checkTime time now) ↔
        now ≤ time ∧ now.plus rules.minLead ≤ time ∧ .last < time)) := by
  simp only [tells_checkTime_iff, Stands]
  constructor
  · intro outside
    rw [DateTime.plus_of_outside outside]
    exact ⟨Iff.rfl, Iff.rfl⟩
  · intro outside
    rw [DateTime.plus_of_outside outside]
    exact ⟨Iff.rfl, Iff.rfl⟩

end Rules

namespace Sample

def lastSecond : DateTime :=
  DateTime.last.withNano 0 DateTime.epoch.nano_lt (by decide)

def longest : Duration where
  nanoseconds := 9_223_372_036_854_775_807_000_000
  ge_min := by decide
  le_max := by decide

def longestBack : Duration where
  nanoseconds := -9_223_372_036_854_775_807_000_000
  ge_min := by decide
  le_max := by decide

end Sample

namespace Rules

theorem checkTime_at_last_edge :
    Sample.lastSecond.PastEnd standard.minLead ∧
      (Timing.accepted.Tells (standard.checkTime .last Sample.lastSecond) ↔
        Sample.lastSecond ≤ .last ∧ DateTime.last ≤ .last ∧
          .last ≤ Sample.lastSecond.plus standard.maxAdvance) := by
  have pastEnd : Sample.lastSecond.PastEnd standard.minLead := by decide
  exact ⟨pastEnd, ((checkTime_at_edges standard .last Sample.lastSecond).1 (.inl pastEnd)).1⟩

/-- On a line of time without ends a booking time that a lead past the end of the calendar
rules out is refused, and one that a lead before its start allows is not too soon; likewise for
the window. None of these is so in the calendar. -/
theorem edges_unlike_timeline :
    (Sample.lastSecond.PastEnd standard.minLead ∧
      standard.checkTime .last Sample.lastSecond = .ok ()) ∧
    (DateTime.epoch.BeforeStart Sample.longestBack ∧
      Timing.tooSoon.Tells
        ((within Sample.longestBack .thirtyDays).checkTime .epoch .epoch)) ∧
    (DateTime.epoch.PastEnd Sample.longest ∧
      Timing.tooFar.Tells
        ((within .thirtyMinutes Sample.longest).checkTime Sample.afterLast .epoch)) ∧
    (DateTime.epoch.BeforeStart Sample.longestBack ∧
      (within .zero Sample.longestBack).checkTime .epoch .epoch = .ok ()) := by
  have soon : (within Sample.longestBack .thirtyDays).Stands .epoch .epoch .tooSoon := by
    decide
  have far : (within .thirtyMinutes Sample.longest).Stands Sample.afterLast .epoch .tooFar := by
    decide
  exact ⟨⟨by decide, rfl⟩, ⟨by decide, tells_of_stands soon⟩, ⟨by decide, tells_of_stands far⟩,
    ⟨by decide, rfl⟩⟩

end Rules

end TableBooking
