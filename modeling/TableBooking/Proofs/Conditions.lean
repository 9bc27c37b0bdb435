import TableBooking.Calendar.Timeline
import TableBooking.Proofs.Acceptance

/-!
# The conditions on a form

A form has to meet six conditions, and it is refused for the first of them that it does not
meet, under the code and with the field of that condition (`enforces_checkForm`). Outside
leap seconds and before the last moment of the calendar the conditions on its time are
comparisons of whole numbers of nanoseconds, of whatever size (`checkForm_on_timeline`).
-/

namespace TableBooking

/-- Something that a form has to meet, and what is reported on a form that does not. -/
structure Condition where
  Met : Prop
  code : ErrorCode
  field : String

/-- Is the refusal reported under the code and with the field of the condition? -/
structure Refusal.Blames (refusal : Refusal) (condition : Condition) : Prop where
  code : refusal.report.code = condition.code
  field : refusal.report.field? = some condition.field

/-- Does the check pass a form that meets all the conditions, and refuse any other form for
the first condition that it does not meet? -/
def Enforces (check : Except Refusal Unit) : List Condition → Prop
  | [] => check = .ok ()
  | condition :: rest =>
    (condition.Met → Enforces check rest) ∧
      (¬ condition.Met → ∃ refusal, check = .error refusal ∧ refusal.Blames condition)

namespace Enforces

variable {check first second : Except Refusal Unit} {conditions early late : List Condition}

/-! ## Checks in a row -/

/-- A check that begins by refusing what does not meet a condition. -/
theorem ite
    {condition : Condition} {refusal : Refusal} {fails : Prop} [Decidable fails]
    (unmet : fails ↔ ¬ condition.Met)
    (blames : refusal.Blames condition)
    (enforces : Enforces check conditions) :
    Enforces (if fails then .error refusal else check) (condition :: conditions) := by
  by_cases refused : fails
  · rw [if_pos refused]
    exact ⟨fun met => absurd met (unmet.1 refused), fun _ => ⟨refusal, rfl, blames⟩⟩
  · rw [if_neg refused]
    exact ⟨fun _ => enforces, fun notMet => absurd (unmet.2 notMet) refused⟩

theorem andThen
    (enforcesFirst : Enforces first early)
    (enforcesSecond : Enforces second late) :
    Enforces (first >>= fun _ => second) (early ++ late) := by
  induction early with
  | nil =>
      have passed : first = .ok () := enforcesFirst
      rw [passed]
      exact enforcesSecond
  | cons condition rest inductionHypothesis =>
      obtain ⟨goesOn, refuses⟩ := enforcesFirst
      refine ⟨fun met => inductionHypothesis (goesOn met), fun unmet => ?_⟩
      obtain ⟨refusal, refused, blames⟩ := refuses unmet
      rw [refused]
      exact ⟨refusal, rfl, blames⟩

theorem eq_ok_iff
    (enforces : Enforces check conditions) :
    check = .ok () ↔ ∀ condition ∈ conditions, condition.Met := by
  induction conditions with
  | nil => exact iff_of_true enforces nofun
  | cons condition rest inductionHypothesis =>
      obtain ⟨goesOn, refuses⟩ := enforces
      rw [List.forall_mem_cons]
      by_cases met : condition.Met
      · rw [inductionHypothesis (goesOn met), and_iff_right met]
      · obtain ⟨refusal, refused, _⟩ := refuses met
        rw [refused]
        exact iff_of_false nofun fun all => met all.1

theorem exists_of_first
    {condition : Condition}
    (enforces : Enforces check (early ++ condition :: late))
    (metBefore : ∀ earlier ∈ early, earlier.Met)
    (unmet : ¬ condition.Met) :
    ∃ refusal, check = .error refusal ∧ refusal.Blames condition := by
  induction early with
  | nil => exact enforces.2 unmet
  | cons earlier rest inductionHypothesis =>
      obtain ⟨met, metRest⟩ := List.forall_mem_cons.1 metBefore
      exact inductionHypothesis (enforces.1 met) metRest

theorem exists_of_error
    {refusal : Refusal}
    (enforces : Enforces check conditions)
    (refused : check = .error refusal) :
    ∃ condition ∈ conditions, ¬ condition.Met ∧ refusal.Blames condition := by
  induction conditions with
  | nil =>
      -- with no condition left the check would have passed
      have passed : check = .ok () := enforces
      rw [refused] at passed
      exact absurd passed nofun
  | cons condition rest inductionHypothesis =>
      by_cases met : condition.Met
      · obtain ⟨found, member, unmet, blames⟩ := inductionHypothesis (enforces.1 met)
        exact ⟨found, List.mem_cons_of_mem condition member, unmet, blames⟩
      · obtain ⟨found, foundRefused, blames⟩ := enforces.2 met
        rw [refused] at foundRefused
        obtain rfl := Except.error.inj foundRefused
        exact ⟨condition, List.mem_cons_self, met, blames⟩

end Enforces

/-! ## Deposits -/

namespace Decimal

/-- The number that the amount stands for. -/
def toRat (d : Decimal) : Rat :=
  mkRat d.signedMantissa (Nat.pow 10 d.scale)

theorem isNegative_eq_false_iff_toRat
    (d : Decimal) :
    d.isNegative = false ↔ 0 ≤ d.toRat := by
  have base : (0 : Int) < (Nat.pow 10 d.scale : Nat) :=
    Int.natCast_pos.2 (Nat.pow_pos (by decide))
  rw [isNegative_eq_false_iff_signedMantissa, toRat, ← Rat.divInt_ofNat,
    Rat.divInt_nonneg_iff_of_pos_right base]

end Decimal

/-! ## The conditions -/

namespace Rules

/-- The conditions on the time of a booking: it has not passed, it leaves the lead that is
needed, and it lies in the window. -/
def timeConditions (ahead leadKept inWindow : Prop) : List Condition :=
  [⟨ahead, .bookingTimeInPast, "booking_time"⟩,
    ⟨leadKept, .bookingTimeTooSoon, "booking_time"⟩,
    ⟨inWindow, .bookingTimeTooFar, "booking_time"⟩]

/-- The conditions on what a form holds beside the time. -/
def contentConditions (rules : Rules) (form : Form) : List Condition :=
  [⟨rules.minGuests ≤ form.guestCount ∧ form.guestCount ≤ rules.maxGuests,
      .guestCountOutOfRange, "guest_count"⟩,
    ⟨0 ≤ form.depositAmount.toRat, .negativeDeposit, "deposit_amount"⟩,
    ⟨∀ text ∈ form.note, text.length ≤ maxNoteLength, .validationFailed, "note"⟩]

/-- The conditions on a form with its time compared in the calendar. -/
def calendarConditions (rules : Rules) (form : Form) (now : DateTime) : List Condition :=
  timeConditions
      (now ≤ form.bookingTime)
      (now.plus rules.minLead ≤ form.bookingTime)
      (form.bookingTime ≤ now.plus rules.maxAdvance) ++
    rules.contentConditions form

/-- The conditions on a form with its time compared on the line of nanoseconds, which does
not end where the calendar does. -/
def timelineConditions (rules : Rules) (form : Form) (now : DateTime) : List Condition :=
  timeConditions
      (now.nanoseconds ≤ form.bookingTime.nanoseconds)
      (now.nanoseconds + rules.minLead.nanoseconds ≤ form.bookingTime.nanoseconds)
      (form.bookingTime.nanoseconds ≤ now.nanoseconds + rules.maxAdvance.nanoseconds) ++
    rules.contentConditions form

/-! ## The checks -/

theorem enforces_checkTime
    (rules : Rules) (time now : DateTime) :
    Enforces (rules.checkTime time now)
      (timeConditions (now ≤ time) (now.plus rules.minLead ≤ time)
        (time ≤ now.plus rules.maxAdvance)) := by
  have refusesOutside :
      Enforces
        (if now.plus rules.maxAdvance < time then
          .error (.timeTooFar (now.plus rules.maxAdvance) rules.maxAdvance)
        else .ok ())
        [⟨time ≤ now.plus rules.maxAdvance, .bookingTimeTooFar, "booking_time"⟩] :=
    Enforces.ite Decidable.not_not.symm ⟨rfl, rfl⟩ rfl
  exact Enforces.ite Decidable.not_not.symm ⟨rfl, rfl⟩ <|
    Enforces.ite Decidable.not_not.symm ⟨rfl, rfl⟩ refusesOutside

theorem enforces_checkGuests
    (rules : Rules) (guests : Int32) :
    Enforces (rules.checkGuests guests)
      [⟨rules.minGuests ≤ guests ∧ guests ≤ rules.maxGuests, .guestCountOutOfRange,
        "guest_count"⟩] := by
  rw [checkGuests, ← ite_not]
  exact Enforces.ite Iff.rfl ⟨rfl, rfl⟩ rfl

theorem enforces_checkDeposit
    (deposit : Decimal) :
    Enforces (checkDeposit deposit)
      [⟨0 ≤ deposit.toRat, .negativeDeposit, "deposit_amount"⟩] := by
  have negative : deposit.isNegative = true ↔ ¬ 0 ≤ deposit.toRat := by
    rw [← deposit.isNegative_eq_false_iff_toRat, Bool.not_eq_false]
  exact Enforces.ite negative ⟨rfl, rfl⟩ rfl

theorem enforces_checkText
    (field : String) (limit : Nat) (text : Option String) :
    Enforces (checkText field limit text)
      [⟨∀ held ∈ text, held.length ≤ limit, .validationFailed, field⟩] := by
  cases text with
  | none => exact ⟨fun _ => rfl, fun unmet => absurd nofun unmet⟩
  | some held =>
      have tooLong : limit < held.length ↔ ¬ ∀ text ∈ some held, text.length ≤ limit := by
        simp
      exact Enforces.ite tooLong ⟨rfl, rfl⟩ rfl

theorem enforces_checkForm
    (rules : Rules) (form : Form) (now : DateTime) :
    Enforces (rules.checkForm form now) (rules.calendarConditions form now) :=
  (rules.enforces_checkTime form.bookingTime now).andThen <|
    (rules.enforces_checkGuests form.guestCount).andThen <|
      (enforces_checkDeposit form.depositAmount).andThen <|
        enforces_checkText "note" maxNoteLength form.note

/-! ## The line of nanoseconds -/

/-- A sum that leaves the calendar does not change the conditions. -/
theorem calendarConditions_eq_timelineConditions
    {rules : Rules} {form : Form} {now : DateTime}
    (lead : 0 ≤ rules.minLead.nanoseconds)
    (window : 0 ≤ rules.maxAdvance.nanoseconds)
    (ordinaryNow : ¬ now.InLeapSecond)
    (ordinaryTime : ¬ form.bookingTime.InLeapSecond)
    (beforeEnd : form.bookingTime < .last) :
    rules.calendarConditions form now = rules.timelineConditions form now := by
  have ahead :
      (now ≤ form.bookingTime) = (now.nanoseconds ≤ form.bookingTime.nanoseconds) :=
    propext (DateTime.le_iff_nanoseconds_le ordinaryNow ordinaryTime)
  have leadKept :
      (now.plus rules.minLead ≤ form.bookingTime) =
        (now.nanoseconds + rules.minLead.nanoseconds ≤ form.bookingTime.nanoseconds) :=
    propext (DateTime.plus_le_iff ordinaryNow lead ordinaryTime beforeEnd)
  have inWindow :
      (form.bookingTime ≤ now.plus rules.maxAdvance) =
        (form.bookingTime.nanoseconds ≤ now.nanoseconds + rules.maxAdvance.nanoseconds) :=
    propext (DateTime.le_plus_iff ordinaryNow window ordinaryTime beforeEnd)
  rw [calendarConditions, timelineConditions, ahead, leadKept, inWindow]

/-- With a lead and a window that are not negative, for times outside leap seconds and
before the last moment of the calendar, a form passes its check if and only if it meets the
conditions on the line of nanoseconds. Otherwise the refusal has the code and the field of
the first condition that is not met. -/
theorem checkForm_on_timeline
    (rules : Rules) (form : Form) (now : DateTime)
    (lead : 0 ≤ rules.minLead.nanoseconds)
    (window : 0 ≤ rules.maxAdvance.nanoseconds)
    (ordinaryNow : ¬ now.InLeapSecond)
    (ordinaryTime : ¬ form.bookingTime.InLeapSecond)
    (beforeEnd : form.bookingTime < .last) :
    (rules.checkForm form now = .ok () ↔
      ∀ condition ∈ rules.timelineConditions form now, condition.Met) ∧
    ∀ early condition late,
      rules.timelineConditions form now = early ++ condition :: late →
      (∀ earlier ∈ early, earlier.Met) → ¬ condition.Met →
      ∃ refusal, rules.checkForm form now = .error refusal ∧
        refusal.report.code = condition.code ∧
        refusal.report.field? = some condition.field := by
  have enforces := rules.enforces_checkForm form now
  rw [calendarConditions_eq_timelineConditions lead window ordinaryNow ordinaryTime beforeEnd]
    at enforces
  refine ⟨enforces.eq_ok_iff, ?_⟩
  intro early condition late split metBefore unmet
  rw [split] at enforces
  obtain ⟨refusal, refused, blames⟩ := enforces.exists_of_first metBefore unmet
  exact ⟨refusal, refused, blames.code, blames.field⟩

end Rules

/-! ## The end of the calendar -/

namespace Sample

/-- The window ends after the calendar. -/
def endlessRules : Rules where
  minLead := .thirtyMinutes
  maxAdvance := ⟨100_000_000 * 86400 * 1_000_000_000, by decide, by decide⟩
  minGuests := 1
  maxGuests := 20

/-- A table for too many, with a deposit below zero, one nanosecond before the last moment
of the calendar. -/
def lastForm : Form where
  restaurantId := 3
  tableId := none
  guestCount := 21
  bookingTime := DateTime.last.withNano 999999998 (by decide) nofun
  depositAmount := ⟨true, 1, 1, by decide, by decide⟩
  note := none

end Sample

theorem Rules.checkForm_on_timeline_lastForm :
    (0 ≤ Sample.endlessRules.minLead.nanoseconds ∧
      0 ≤ Sample.endlessRules.maxAdvance.nanoseconds ∧
      ¬ DateTime.epoch.InLeapSecond ∧
      ¬ Sample.lastForm.bookingTime.InLeapSecond ∧
      Sample.lastForm.bookingTime < .last) ∧
    ∃ refusal, Sample.endlessRules.checkForm Sample.lastForm .epoch = .error refusal ∧
      refusal.report.code = .guestCountOutOfRange ∧
      refusal.report.field? = some "guest_count" := by
  refine ⟨by decide, ?_⟩
  refine (Rules.checkForm_on_timeline Sample.endlessRules Sample.lastForm .epoch
    (by decide) (by decide) (by decide) (by decide) (by decide)).2
    (timeConditions _ _ _) _ _ rfl ?_ ?_
  · simp only [timeConditions, List.forall_mem_cons]
    exact ⟨by decide, by decide, by decide, nofun⟩
  · change ¬ (Sample.endlessRules.minGuests ≤ Sample.lastForm.guestCount ∧
      Sample.lastForm.guestCount ≤ Sample.endlessRules.maxGuests)
    decide

end TableBooking
