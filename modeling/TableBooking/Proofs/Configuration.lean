import TableBooking.Calendar.Sum
import TableBooking.Proofs.Conditions
import TableBooking.Proofs.Window
import TableBooking.Settings

/-!
# Rules made of settings

Settings make rules if and only if they are consistent (`rules_eq_ok_iff`). As long as ten years
from the present moment lie in the calendar, rules that are made of settings leave a window open
at that moment, in which every form that keeps to them is accepted, and a refusal for the time
quotes the numbers of the settings (`openAt_of_configured`).
-/

namespace TableBooking

/-! ## Durations of whole minutes and days -/

namespace Duration

theorem ofNanoseconds?_eq_some_iff
    (nanoseconds : Int) (d : Duration) :
    ofNanoseconds? nanoseconds = some d ↔ d.nanoseconds = nanoseconds := by
  rw [ofNanoseconds?]
  by_cases fits : -maxNanoseconds ≤ nanoseconds ∧ nanoseconds ≤ maxNanoseconds
  · rw [dif_pos fits, Option.some.injEq, Duration.ext_iff, eq_comm]
  · rw [dif_neg fits]
    refine iff_of_false nofun fun same => fits ?_
    rw [← same]
    exact ⟨d.ge_min, d.le_max⟩

theorem seconds_eq
    {d : Duration} {seconds : Int}
    (length : d.nanoseconds = seconds * 1_000_000_000) :
    d.seconds = seconds := by
  rw [Duration.seconds, length]
  exact Int.mul_tdiv_cancel seconds (by decide)

theorem minutes_eq
    {d : Duration} {minutes : Int}
    (length : d.nanoseconds = minutes * 60 * 1_000_000_000) :
    d.minutes = minutes := by
  rw [Duration.minutes, seconds_eq length]
  exact Int.mul_tdiv_cancel minutes (by decide)

theorem days_eq
    {d : Duration} {days : Int}
    (length : d.nanoseconds = days * 86400 * 1_000_000_000) :
    d.days = days := by
  rw [Duration.days, seconds_eq length]
  exact Int.mul_tdiv_cancel days (by decide)

end Duration

/-! ## Consistent settings -/

/-- Do the settings leave a window and a range of guests? -/
structure Settings.Consistent (settings : Settings) : Prop where
  lead_nonneg : 0 ≤ settings.minLeadMinutes.toInt
  window_nonneg : 0 ≤ settings.maxAdvanceDays.toInt
  window_le : settings.maxAdvanceDays.toInt ≤ Settings.maxWindowDays
  lead_le : settings.minLeadMinutes.toInt ≤ 1440 * settings.maxAdvanceDays.toInt
  guests_pos : 1 ≤ settings.minGuests
  guests_le : settings.minGuests ≤ settings.maxGuests

/-- Do the rules say what the settings say? -/
structure Rules.Follow (rules : Rules) (settings : Settings) : Prop where
  minLead : rules.minLead.nanoseconds = settings.minLeadMinutes.toInt * 60 * 1_000_000_000
  maxAdvance :
    rules.maxAdvance.nanoseconds = settings.maxAdvanceDays.toInt * 86400 * 1_000_000_000
  minGuests : rules.minGuests = settings.minGuests
  maxGuests : rules.maxGuests = settings.maxGuests

namespace Settings

theorem refuseIf_eq_ok_iff
    {α : Type} (fails : Prop) [Decidable fails] (fault : SettingsFault)
    (next : Unit → Except SettingsFault α) (value : α) :
    (if fails then throw fault >>= next else next ()) = .ok value ↔
      ¬ fails ∧ next () = .ok value := by
  by_cases refused : fails
  · rw [if_pos refused]
    exact iff_of_false nofun fun passed => passed.1 refused
  · rw [if_neg refused, and_iff_right refused]

theorem durationOr_bind_eq_ok_iff
    {α : Type} (fault : SettingsFault) (found : Option Duration)
    (next : Duration → Except SettingsFault α) (value : α) :
    (durationOr fault found >>= next) = .ok value ↔
      ∃ d, found = some d ∧ next d = .ok value := by
  cases found with
  | none => exact iff_of_false nofun fun ⟨_, missing, _⟩ => nomatch missing
  | some d =>
      constructor
      · intro goesOn
        exact ⟨d, rfl, goesOn⟩
      · rintro ⟨_, same, goesOn⟩
        obtain rfl := Option.some.inj same
        exact goesOn

theorem rules_eq_ok_iff
    (settings : Settings) (rules : Rules) :
    settings.rules = .ok rules ↔ settings.Consistent ∧ rules.Follow settings := by
  unfold Settings.rules
  simp only [refuseIf_eq_ok_iff, durationOr_bind_eq_ok_iff, Duration.ofMinutes?,
    Duration.ofDays?, Duration.ofNanoseconds?_eq_some_iff, pure, Except.pure, Except.ok.injEq,
    not_or, Int.not_lt, Int32.not_lt]
  constructor
  · rintro ⟨⟨leadNonneg, windowNonneg⟩, windowLe, lead, leadLength, window, windowLength,
      leadLe, ⟨guestsPos, guestsLe⟩, rfl⟩
    exact ⟨⟨leadNonneg, windowNonneg, windowLe, by omega, guestsPos, guestsLe⟩,
      ⟨leadLength, windowLength, rfl, rfl⟩⟩
  · rintro ⟨consistent, follow⟩
    have leadLe := consistent.lead_le
    have leadLength := follow.minLead
    have windowLength := follow.maxAdvance
    refine ⟨⟨consistent.lead_nonneg, consistent.window_nonneg⟩, consistent.window_le,
      rules.minLead, leadLength, rules.maxAdvance, windowLength, by omega,
      ⟨consistent.guests_pos, consistent.guests_le⟩, ?_⟩
    rw [← follow.minGuests, ← follow.maxGuests]

/-- The longest window that settings can give. -/
def longestWindow : Duration where
  nanoseconds := 3650 * 86400 * 1_000_000_000
  ge_min := by decide
  le_max := by decide

end Settings

/-! ## An open window -/

namespace Rules

variable {rules : Rules} {settings : Settings}

/-- Do the rules accept at the moment whatever keeps to them and to the times? -/
structure OpenAt (rules : Rules) (now earliest latest : DateTime) : Prop where
  lead : now.add? rules.minLead = some earliest
  window : now.add? rules.maxAdvance = some latest
  ahead : now ≤ earliest
  order : earliest ≤ latest
  guests : rules.minGuests ≤ rules.maxGuests
  accepts : ∀ (form : Form) (owner : Uuid),
    earliest ≤ form.bookingTime → form.bookingTime ≤ latest →
      rules.minGuests ≤ form.guestCount → form.guestCount ≤ rules.maxGuests →
        0 ≤ form.depositAmount.toRat → (∀ text ∈ form.note, text.length ≤ 500) →
          (Workflow.prepareCreate rules (some form) (some owner) now).result =
            .ok (Workflow.prepared form owner now)

/-- Does every refusal for a time that is too soon or too far quote the numbers? -/
def Quotes (rules : Rules) (minutes days : Int) : Prop :=
  ∀ time now refusal, rules.checkTime time now = .error refusal →
    (refusal.report.code = .bookingTimeTooSoon →
      refusal.report.message =
        "Booking must be made at least " ++ Text.ofInt minutes ++ " minutes in advance") ∧
    (refusal.report.code = .bookingTimeTooFar →
      refusal.report.message =
        "Booking cannot be made more than " ++ Text.ofInt days ++ " days in advance")

theorem quotes
    (rules : Rules) :
    rules.Quotes rules.minLead.minutes rules.maxAdvance.days := by
  intro time now refusal refused
  have pastNotSoon : ErrorCode.bookingTimeInPast ≠ .bookingTimeTooSoon := by decide
  have pastNotFar : ErrorCode.bookingTimeInPast ≠ .bookingTimeTooFar := by decide
  have soonNotFar : ErrorCode.bookingTimeTooSoon ≠ .bookingTimeTooFar := by decide
  obtain ⟨timing, stands⟩ := rules.exists_stands time now
  rw [checkTime_of_stands stands] at refused
  cases timing with
  | inPast =>
      obtain rfl := Except.error.inj refused
      exact ⟨fun isSoon => absurd isSoon pastNotSoon, fun isFar => absurd isFar pastNotFar⟩
  | tooSoon =>
      obtain rfl := Except.error.inj refused
      exact ⟨fun _ => rfl, fun isFar => absurd isFar soonNotFar⟩
  | tooFar =>
      obtain rfl := Except.error.inj refused
      exact ⟨fun isSoon => absurd isSoon.symm soonNotFar, fun _ => rfl⟩
  | accepted => cases refused

theorem accepts_of_sums
    {form : Form} {now earliest latest : DateTime} (owner : Uuid)
    (lead : now.add? rules.minLead = some earliest)
    (window : now.add? rules.maxAdvance = some latest)
    (ahead : now ≤ earliest)
    (fromEarliest : earliest ≤ form.bookingTime)
    (toLatest : form.bookingTime ≤ latest)
    (content : ∀ condition ∈ rules.contentConditions form, condition.Met) :
    (Workflow.prepareCreate rules (some form) (some owner) now).result =
      .ok (Workflow.prepared form owner now) := by
  have conditions : ∀ condition ∈ rules.calendarConditions form now, condition.Met := by
    rw [calendarConditions, List.forall_mem_append, timeConditions,
      DateTime.plus_of_add? lead, DateTime.plus_of_add? window]
    refine ⟨?_, content⟩
    simp only [List.forall_mem_cons]
    exact ⟨Std.le_trans ahead fromEarliest, fromEarliest, toLatest, List.forall_mem_nil _⟩
  have passed := (rules.enforces_checkForm form now).eq_ok_iff.2 conditions
  rw [Workflow.prepareCreate_of_passed owner passed]

theorem openAt_of_sums
    {now earliest latest : DateTime}
    (leadNonneg : 0 ≤ rules.minLead.nanoseconds)
    (leadLe : rules.minLead.nanoseconds ≤ rules.maxAdvance.nanoseconds)
    (guests : rules.minGuests ≤ rules.maxGuests)
    (lead : now.add? rules.minLead = some earliest)
    (window : now.add? rules.maxAdvance = some latest) :
    rules.OpenAt now earliest latest where
  lead := lead
  window := window
  ahead := DateTime.le_of_add? leadNonneg lead
  order := DateTime.add?_le_add? leadNonneg leadLe lead window
  guests := guests
  accepts := by
    intro form owner fromEarliest toLatest enough notTooMany deposit note
    refine accepts_of_sums owner lead window (DateTime.le_of_add? leadNonneg lead)
      fromEarliest toLatest ?_
    simp only [contentConditions, List.forall_mem_cons]
    exact ⟨⟨enough, notTooMany⟩, deposit, note, List.forall_mem_nil _⟩

end Rules

namespace Settings

/-- Rules that are made of the settings in any variables leave a window open at every moment
from which the longest window stays in the calendar: neither its lead nor its end leaves the
calendar, and whatever keeps to it and to the other rules is accepted. Refusals for the time
quote the minutes and the days of the settings. -/
theorem openAt_of_configured
    {lookup : String → Option String} {rules : Rules} {now last : DateTime}
    (configured : (ofVariables lookup).rules = .ok rules)
    (inside : now.add? longestWindow = some last) :
    (∃ earliest latest, rules.OpenAt now earliest latest) ∧
      rules.Quotes (ofVariables lookup).minLeadMinutes.toInt
        (ofVariables lookup).maxAdvanceDays.toInt := by
  obtain ⟨consistent, follow⟩ := (rules_eq_ok_iff _ rules).1 configured
  have leadLength := follow.minLead
  have windowLength := follow.maxAdvance
  have leadNonneg := consistent.lead_nonneg
  have leadLe := consistent.lead_le
  have windowLe : _ ≤ (3650 : Int) := consistent.window_le
  have longestLength : longestWindow.nanoseconds = 3650 * 86400 * 1_000_000_000 := rfl
  have guests : rules.minGuests ≤ rules.maxGuests := by
    rw [follow.minGuests, follow.maxGuests]
    exact consistent.guests_le
  obtain ⟨latest, window⟩ :=
    DateTime.exists_add?_of_le (d := rules.maxAdvance) (by omega) (by omega) inside
  obtain ⟨earliest, lead⟩ :=
    DateTime.exists_add?_of_le (d := rules.minLead) (by omega) (by omega) window
  refine ⟨⟨earliest, latest, Rules.openAt_of_sums (by omega) (by omega) guests lead window⟩,
    ?_⟩
  have quotes := rules.quotes
  rw [Duration.minutes_eq leadLength, Duration.days_eq windowLength] at quotes
  exact quotes

end Settings

namespace Sample

/-- The longest window, an hour's lead, and a number of guests that cannot be read. -/
def environment : String → Option String
  | "BOOKING_MIN_LEAD_MINUTES" => some "+60"
  | "BOOKING_MAX_ADVANCE_DAYS" => some "3650"
  | "BOOKING_MAX_GUESTS" => some "many"
  | _ => none

def configuredRules : Rules :=
  .within
    { nanoseconds := 60 * 60 * 1_000_000_000
      ge_min := by decide
      le_max := by decide }
    Settings.longestWindow

-- the window starts from the second before the leap second
def longestWindowEnd : DateTime where
  day := 3650
  second := 59
  nano := 200_000_000
  day_ge := by decide
  day_le := by decide
  second_lt := minuteEnd.second_lt
  nano_lt := by decide
  leap_last := by decide

end Sample

namespace Settings

theorem openAt_of_configured_insideLeap :
    ((ofVariables Sample.environment).rules = .ok Sample.configuredRules ∧
      Sample.insideLeap.add? longestWindow = some Sample.longestWindowEnd) ∧
    (∃ earliest latest, Sample.configuredRules.OpenAt Sample.insideLeap earliest latest) ∧
      Sample.configuredRules.Quotes 60 3650 := by
  have configured : (ofVariables Sample.environment).rules = .ok Sample.configuredRules := rfl
  have inside : Sample.insideLeap.add? longestWindow = some Sample.longestWindowEnd := rfl
  obtain ⟨isOpen, quotes⟩ := openAt_of_configured configured inside
  exact ⟨⟨configured, inside⟩, isOpen, quotes⟩

end Settings

end TableBooking
