import TableBooking.Calendar.Units
import TableBooking.Proofs.Configuration

/-!
# What is wrong with settings

Settings that make no rules are told what is wrong with them: the tests stand in a fixed order,
and the first of them that fails is reported, the one on the guests after all those on the
window (`rules_decided`). The tests come out alike in 64 bits and with whole numbers of any size,
and the limit on the window keeps the number of its days within the longest duration.
-/

namespace TableBooking

namespace Settings

/-- Do the settings leave a window? -/
structure WindowConsistent (settings : Settings) : Prop where
  lead_nonneg : 0 ≤ settings.minLeadMinutes.toInt
  window_nonneg : 0 ≤ settings.maxAdvanceDays.toInt
  window_le : settings.maxAdvanceDays.toInt ≤ maxWindowDays
  lead_le : settings.minLeadMinutes.toInt ≤ 1440 * settings.maxAdvanceDays.toInt

/-- Is this what is wrong with the settings in the first place? -/
def Faulty (settings : Settings) : SettingsFault → Prop
  | .windowNegative =>
    settings.minLeadMinutes.toInt < 0 ∨ settings.maxAdvanceDays.toInt < 0
  | .windowTooLong =>
    0 ≤ settings.minLeadMinutes.toInt ∧ maxWindowDays < settings.maxAdvanceDays.toInt
  | .leadOutOfRange =>
    (0 ≤ settings.maxAdvanceDays.toInt ∧ settings.maxAdvanceDays.toInt ≤ maxWindowDays) ∧
      Duration.maxMinutes < settings.minLeadMinutes.toInt
  | .windowOutOfRange => False
  | .leadExceedsWindow =>
    (0 ≤ settings.maxAdvanceDays.toInt ∧ settings.maxAdvanceDays.toInt ≤ maxWindowDays) ∧
      1440 * settings.maxAdvanceDays.toInt < settings.minLeadMinutes.toInt ∧
        settings.minLeadMinutes.toInt ≤ Duration.maxMinutes
  | .guestRange min max =>
    settings.WindowConsistent ∧ (settings.minGuests < 1 ∨ settings.maxGuests < settings.minGuests) ∧
      min = settings.minGuests ∧ max = settings.maxGuests

/-- The rules that the settings make if all arithmetic is done in 64 bits. -/
def rulesIn64 (settings : Settings) : Except SettingsFault Rules := do
  if settings.minLeadMinutes < 0 ∨ settings.maxAdvanceDays < 0 then
    throw .windowNegative
  if 3650 < settings.maxAdvanceDays then throw .windowTooLong
  let minLead ← durationOr .leadOutOfRange (Duration.ofUnits? 60 settings.minLeadMinutes)
  let maxAdvance ← durationOr .windowOutOfRange (Duration.ofUnits? 86400 settings.maxAdvanceDays)
  if maxAdvance.nanoseconds < minLead.nanoseconds then throw .leadExceedsWindow
  if settings.minGuests < 1 ∨ settings.maxGuests < settings.minGuests then
    throw (.guestRange settings.minGuests settings.maxGuests)
  return ⟨minLead, maxAdvance, settings.minGuests, settings.maxGuests⟩

theorem rulesIn64_eq
    (settings : Settings) :
    settings.rulesIn64 = settings.rules := by
  unfold rulesIn64 rules
  simp only [Int64.lt_iff_toInt_lt, ← Duration.ofMinutes?_toInt, ← Duration.ofDays?_toInt]
  rfl

/-! ## Single tests -/

theorem refuseIf_eq_error_iff
    {α : Type} (fails : Prop) [Decidable fails] (fault found : SettingsFault)
    (next : Unit → Except SettingsFault α) :
    (if fails then throw fault >>= next else next ()) = .error found ↔
      (fails ∧ fault = found) ∨ (¬ fails ∧ next () = .error found) := by
  by_cases refused : fails
  · have stops : (throw fault >>= next : Except SettingsFault α) = .error fault := rfl
    rw [if_pos refused, and_iff_right refused, or_iff_left fun passed => passed.1 refused, stops,
      Except.error.injEq]
  · rw [if_neg refused, and_iff_right refused, or_iff_right fun failed => refused failed.1]

theorem durationOr_bind_eq_error_iff
    {α : Type} (fault found : SettingsFault) (duration : Option Duration)
    (next : Duration → Except SettingsFault α) :
    (durationOr fault duration >>= next) = .error found ↔
      (duration = none ∧ fault = found) ∨
        ∃ d, duration = some d ∧ next d = .error found := by
  cases duration with
  | none =>
      have stops : (durationOr fault none >>= next) = .error fault := rfl
      rw [stops, Except.error.injEq, and_iff_right rfl,
        or_iff_left fun ⟨_, missing, _⟩ => nomatch missing]
  | some d =>
      rw [or_iff_right fun missing => nomatch missing.1]
      constructor
      · intro failed
        exact ⟨d, rfl, failed⟩
      · rintro ⟨_, same, failed⟩
        obtain rfl := Option.some.inj same
        exact failed

/-! ## The first test that fails -/

/-- Settings whose numbers are not too great have a lead and a window that are durations. -/
theorem exists_durations
    {settings : Settings}
    (leadNonneg : 0 ≤ settings.minLeadMinutes.toInt)
    (leadFits : settings.minLeadMinutes.toInt ≤ Duration.maxMinutes)
    (windowNonneg : 0 ≤ settings.maxAdvanceDays.toInt)
    (windowLe : settings.maxAdvanceDays.toInt ≤ maxWindowDays) :
    ∃ lead window : Duration,
      lead.nanoseconds = settings.minLeadMinutes.toInt * 60 * 1_000_000_000 ∧
        window.nanoseconds = settings.maxAdvanceDays.toInt * 86400 * 1_000_000_000 := by
  have limit : maxWindowDays = 3650 := rfl
  have longest : Duration.maxNanoseconds = 9_223_372_036_854_775_807_000_000 := rfl
  have mostMinutes : Duration.maxMinutes = 153_722_867_280_912 := rfl
  exact ⟨⟨_, by omega, by omega⟩, ⟨_, by omega, by omega⟩, rfl, rfl⟩

theorem rules_eq_error_iff
    (settings : Settings) (fault : SettingsFault) :
    settings.rules = .error fault ↔ settings.Faulty fault := by
  have limit : maxWindowDays = 3650 := rfl
  have longest : Duration.maxNanoseconds = 9_223_372_036_854_775_807_000_000 := rfl
  have mostMinutes : Duration.maxMinutes = 153_722_867_280_912 := rfl
  unfold rules
  simp only [refuseIf_eq_error_iff, durationOr_bind_eq_error_iff, Duration.ofMinutes?,
    Duration.ofDays?, Duration.ofNanoseconds?_eq_some_iff, Duration.ofNanoseconds?_eq_none_iff,
    pure, Except.pure, not_or, Int.not_lt, reduceCtorEq, and_false, or_false]
  constructor
  · rintro (⟨negative, rfl⟩ | ⟨⟨leadNonneg, windowNonneg⟩, ⟨long, rfl⟩ | ⟨windowLe,
      ⟨tooLong, rfl⟩ | ⟨lead, leadLength, ⟨tooLong, rfl⟩ | ⟨window, windowLength,
      ⟨exceeds, rfl⟩ | ⟨leadLe, guests, rfl⟩⟩⟩⟩⟩)
    · exact negative
    · exact ⟨leadNonneg, long⟩
    · exact ⟨⟨windowNonneg, windowLe⟩, by omega⟩
    · -- the limit on the days keeps them within the longest duration
      change False
      omega
    · have leadFits := lead.le_max
      exact ⟨⟨windowNonneg, windowLe⟩, by omega, by omega⟩
    · exact ⟨⟨leadNonneg, windowNonneg, windowLe, by omega⟩, guests, rfl, rfl⟩
  · intro faulty
    cases fault with
    | windowNegative => exact .inl ⟨faulty, rfl⟩
    | windowTooLong =>
        obtain ⟨leadNonneg, long⟩ := faulty
        exact .inr ⟨⟨leadNonneg, by omega⟩, .inl ⟨long, rfl⟩⟩
    | leadOutOfRange =>
        obtain ⟨⟨windowNonneg, windowLe⟩, tooLong⟩ := faulty
        exact .inr ⟨⟨by omega, windowNonneg⟩, .inr ⟨windowLe, .inl ⟨by omega, rfl⟩⟩⟩
    | windowOutOfRange => exact faulty.elim
    | leadExceedsWindow =>
        obtain ⟨⟨windowNonneg, windowLe⟩, exceeds, leadFits⟩ := faulty
        have leadNonneg : 0 ≤ settings.minLeadMinutes.toInt := by omega
        obtain ⟨lead, window, leadLength, windowLength⟩ :=
          exists_durations leadNonneg leadFits windowNonneg windowLe
        refine .inr ⟨⟨leadNonneg, windowNonneg⟩, .inr ⟨windowLe, .inr ⟨lead, leadLength, ?_⟩⟩⟩
        exact .inr ⟨window, windowLength, .inl ⟨by omega, rfl⟩⟩
    | guestRange min max =>
        obtain ⟨⟨leadNonneg, windowNonneg, windowLe, leadLe⟩, guests, rfl, rfl⟩ := faulty
        obtain ⟨lead, window, leadLength, windowLength⟩ :=
          exists_durations leadNonneg (by omega) windowNonneg windowLe
        refine .inr ⟨⟨leadNonneg, windowNonneg⟩, .inr ⟨windowLe, .inr ⟨lead, leadLength, ?_⟩⟩⟩
        exact .inr ⟨window, windowLength, .inr ⟨by omega, guests, rfl⟩⟩

/-- The guests are reported if and only if nothing is wrong with the window. -/
theorem windowConsistent_iff_of_faulty
    {settings : Settings} {fault : SettingsFault}
    (faulty : settings.Faulty fault) :
    settings.WindowConsistent ↔
      fault = .guestRange settings.minGuests settings.maxGuests := by
  have limit : maxWindowDays = 3650 := rfl
  have mostMinutes : Duration.maxMinutes = 153_722_867_280_912 := rfl
  cases fault with
  | windowNegative =>
      refine iff_of_false (fun consistent => ?_) nofun
      exact faulty.elim (Int.not_lt.2 consistent.lead_nonneg)
        (Int.not_lt.2 consistent.window_nonneg)
  | windowTooLong =>
      refine iff_of_false (fun consistent => ?_) nofun
      exact absurd consistent.window_le (Int.not_le.2 faulty.2)
  | leadOutOfRange =>
      obtain ⟨⟨_, windowLe⟩, tooLong⟩ := faulty
      refine iff_of_false (fun consistent => ?_) nofun
      have leadLe := consistent.lead_le
      omega
  | windowOutOfRange => exact faulty.elim
  | leadExceedsWindow =>
      refine iff_of_false (fun consistent => ?_) nofun
      exact absurd consistent.lead_le (Int.not_le.2 faulty.2.1)
  | guestRange min max =>
      obtain ⟨consistent, _, rfl, rfl⟩ := faulty
      exact iff_of_true consistent rfl

end Settings

/-! ## Messages -/

theorem head?_toList_append
    {text : String} {first : Char} (rest : String)
    (head : text.toList.head? = some first) :
    (text ++ rest).toList.head? = some first := by
  rw [String.toList_append, List.head?_append, head, Option.some_or]

namespace SettingsFault

/-- The first letter of the message. -/
def initial : SettingsFault → Char
  | guestRange _ _ => 'I'
  | _ => 'B'

theorem head?_toList_message
    (fault : SettingsFault) :
    fault.message.toList.head? = some fault.initial := by
  cases fault with
  | windowNegative => rfl
  | windowTooLong => exact head?_toList_append _ rfl
  | leadOutOfRange => rfl
  | windowOutOfRange => rfl
  | leadExceedsWindow => rfl
  | guestRange min max =>
      exact head?_toList_append _ (head?_toList_append _ (head?_toList_append _ rfl))

end SettingsFault

namespace Settings

theorem message_eq_iff_of_faulty
    {settings : Settings} {fault : SettingsFault}
    (faulty : settings.Faulty fault) :
    fault.message = (SettingsFault.guestRange settings.minGuests settings.maxGuests).message ↔
      fault = .guestRange settings.minGuests settings.maxGuests := by
  constructor
  · intro same
    have initials : some fault.initial = some 'I' := by
      rw [← SettingsFault.head?_toList_message, same, SettingsFault.head?_toList_message]
      rfl
    cases fault with
    | guestRange min max =>
        obtain ⟨_, _, rfl, rfl⟩ := faulty
        rfl
    | windowNegative => exact absurd initials (by decide)
    | windowTooLong => exact absurd initials (by decide)
    | leadOutOfRange => exact absurd initials (by decide)
    | windowOutOfRange => exact absurd initials (by decide)
    | leadExceedsWindow => exact absurd initials (by decide)
  · rintro rfl
    rfl

/-! ## The verdict on settings -/

theorem Consistent.window
    {settings : Settings}
    (consistent : settings.Consistent) :
    settings.WindowConsistent where
  lead_nonneg := consistent.lead_nonneg
  window_nonneg := consistent.window_nonneg
  window_le := consistent.window_le
  lead_le := consistent.lead_le

theorem exists_rules_of_consistent
    {settings : Settings}
    (consistent : settings.Consistent) :
    ∃ rules, settings.rules = .ok rules := by
  cases made : settings.rules with
  | ok rules => exact ⟨rules, rfl⟩
  | error fault =>
      have faulty := (rules_eq_error_iff settings fault).1 made
      obtain rfl := (windowConsistent_iff_of_faulty faulty).1 consistent.window
      obtain ⟨_, few | reversed, _⟩ := faulty
      · exact absurd few (Int32.not_lt.2 consistent.guests_pos)
      · exact absurd reversed (Int32.not_lt.2 consistent.guests_le)

/-- Settings make rules if and only if they are consistent, and the rules say what the settings
say. Other settings are told the first thing that is wrong with them: the range of the guests
if and only if the window is consistent, and never that the window is no duration. All of it
comes out alike if it is computed in 64 bits. -/
theorem rules_decided
    (settings : Settings) :
    ((∃ rules, settings.rules = .ok rules) ↔ settings.Consistent) ∧
    (∀ rules, settings.rules = .ok rules →
      rules.Follow settings ∧ rules.minLead.minutes = settings.minLeadMinutes.toInt ∧
        rules.maxAdvance.days = settings.maxAdvanceDays.toInt) ∧
    (∀ fault, settings.rules = .error fault ↔ settings.Faulty fault) ∧
    (∀ fault, settings.rules = .error fault →
      fault.report.code = .configError ∧ fault ≠ .windowOutOfRange ∧
        (fault.report.message =
            "Invalid guest range " ++ Text.ofInt settings.minGuests.toInt ++ "..=" ++
              Text.ofInt settings.maxGuests.toInt ↔
          settings.WindowConsistent)) ∧
    settings.rulesIn64 = settings.rules := by
  refine ⟨⟨?_, exists_rules_of_consistent⟩, ?_, rules_eq_error_iff settings, ?_,
    rulesIn64_eq settings⟩
  · rintro ⟨rules, made⟩
    exact ((rules_eq_ok_iff settings rules).1 made).1
  · intro rules made
    have follow := ((rules_eq_ok_iff settings rules).1 made).2
    exact ⟨follow, Duration.minutes_eq follow.minLead, Duration.days_eq follow.maxAdvance⟩
  · intro fault failed
    have faulty := (rules_eq_error_iff settings fault).1 failed
    refine ⟨rfl, ?_, ?_⟩
    · rintro rfl
      exact faulty
    · rw [windowConsistent_iff_of_faulty faulty]
      exact message_eq_iff_of_faulty faulty

/-- The product for the lead overflows before the lead is compared with the window. -/
example :
    int64Product? Int64.maxValue 60 = none ∧
      { standard with minLeadMinutes := Int64.maxValue }.rules = .error .leadOutOfRange :=
  ⟨rfl, rfl⟩

end Settings

end TableBooking
