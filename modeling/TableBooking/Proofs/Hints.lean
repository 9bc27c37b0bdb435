import TableBooking.Proofs.RoundTrip
import TableBooking.Proofs.Window

/-!
# What a refused booking time is told

A booking time that is too soon is told the earliest one, and a booking time that is too far
ahead the latest one. Each of them is accepted at the same moment, and none beyond it is, so
the customer can repair the request by what is told (`hints_repair`).
-/

namespace TableBooking

/-- Does the refusal show a moment under a name, in a text that is read as that moment once
its blank is replaced by the mark of exchanged texts? -/
def Refusal.Hints (refusal : Refusal) (name : String) (moment : DateTime) : Prop :=
  ∃ hint, refusal.report.detail? name = some (.string hint) ∧ hint = moment.shown ∧
    DateTime.ofJson? (.string (DateTime.exchanged hint)) = some moment

theorem Refusal.hints_of_detail
    {refusal : Refusal} {name : String} {moment : DateTime}
    (detail : refusal.report.detail? name = some (.string moment.shown)) :
    refusal.Hints name moment := by
  refine ⟨moment.shown, detail, rfl, ?_⟩
  rw [DateTime.exchanged_shown]
  exact DateTime.ofJson?_toJson moment

namespace Rules

section Bounds

variable {rules : Rules} {now time : DateTime}

theorem checkTime_earliest
    (inCalendar : now ≤ .last)
    (lead : 0 ≤ rules.minLead.nanoseconds)
    (ordered : rules.minLead.nanoseconds ≤ rules.maxAdvance.nanoseconds) :
    rules.checkTime (now.plus rules.minLead) now = .ok () := by
  have stands : rules.Stands (now.plus rules.minLead) now .accepted := by
    refine ⟨DateTime.le_plus lead inCalendar, Std.le_refl _, ?_⟩
    exact DateTime.plus_le_plus_of_longer lead ordered inCalendar
  exact checkTime_of_stands stands

theorem checkTime_latest
    (inCalendar : now ≤ .last)
    (lead : 0 ≤ rules.minLead.nanoseconds)
    (ordered : rules.minLead.nanoseconds ≤ rules.maxAdvance.nanoseconds) :
    rules.checkTime (now.plus rules.maxAdvance) now = .ok () := by
  have window : 0 ≤ rules.maxAdvance.nanoseconds := Int.le_trans lead ordered
  have stands : rules.Stands (now.plus rules.maxAdvance) now .accepted := by
    refine ⟨DateTime.le_plus window inCalendar, ?_, Std.le_refl _⟩
    exact DateTime.plus_le_plus_of_longer lead ordered inCalendar
  exact checkTime_of_stands stands

theorem refused_of_lt_earliest
    (early : time < now.plus rules.minLead) :
    ∃ cause, rules.checkTime time now = .error cause := by
  by_cases past : time < now
  · have stands : rules.Stands time now .inPast := past
    exact ⟨_, checkTime_of_stands stands⟩
  · have stands : rules.Stands time now .tooSoon := ⟨past, early⟩
    exact ⟨_, checkTime_of_stands stands⟩

theorem tooFar_of_latest_lt
    (inCalendar : now ≤ .last)
    (lead : 0 ≤ rules.minLead.nanoseconds)
    (ordered : rules.minLead.nanoseconds ≤ rules.maxAdvance.nanoseconds)
    (late : now.plus rules.maxAdvance < time) :
    ∃ cause, rules.checkTime time now = .error cause ∧
      cause.report.code = .bookingTimeTooFar := by
  have afterLead : now.plus rules.minLead ≤ time :=
    Std.le_trans (DateTime.plus_le_plus_of_longer lead ordered inCalendar)
      (Std.le_of_lt late)
  have ahead : now ≤ time := Std.le_trans (DateTime.le_plus lead inCalendar) afterLead
  have stands : rules.Stands time now .tooFar := ⟨ahead, afterLead, late⟩
  exact ⟨_, checkTime_of_stands stands, rfl⟩

end Bounds

section Hints

variable {rules : Rules} {now time : DateTime} {refusal : Refusal}

theorem error_eq_verdictOn_of_code
    (timing : Timing)
    (refused : rules.checkTime time now = .error refusal)
    (code : timing.code? = some refusal.report.code) :
    .error refusal = rules.verdictOn now timing := by
  have tells : timing.Tells (rules.checkTime time now) := by
    rw [refused]
    exact code
  rw [← refused]
  exact checkTime_of_stands ((rules.tells_checkTime_iff time now timing).1 tells)

/-- Up to the last moment of the calendar, the time that a refusal tells is accepted, and the
times beyond it are refused. -/
theorem hints_repair
    (inCalendar : now ≤ .last)
    (lead : 0 ≤ rules.minLead.nanoseconds)
    (ordered : rules.minLead.nanoseconds ≤ rules.maxAdvance.nanoseconds)
    (refused : rules.checkTime time now = .error refusal) :
    (refusal.report.code = .bookingTimeTooSoon →
      ∃ earliest, refusal.Hints "earliest" earliest ∧
        rules.checkTime earliest now = .ok () ∧
        ∀ other, other < earliest → ∃ cause, rules.checkTime other now = .error cause) ∧
    (refusal.report.code = .bookingTimeTooFar →
      ∃ latest, refusal.Hints "latest" latest ∧
        rules.checkTime latest now = .ok () ∧
        ∀ other, latest < other → ∃ cause, rules.checkTime other now = .error cause ∧
          cause.report.code = .bookingTimeTooFar) := by
  constructor
  · intro tooSoon
    obtain rfl :=
      Except.error.inj
        (error_eq_verdictOn_of_code .tooSoon refused (congrArg some tooSoon.symm))
    refine ⟨now.plus rules.minLead, Refusal.hints_of_detail rfl,
      checkTime_earliest inCalendar lead ordered, ?_⟩
    intro other early
    exact refused_of_lt_earliest early
  · intro tooFar
    obtain rfl :=
      Except.error.inj (error_eq_verdictOn_of_code .tooFar refused (congrArg some tooFar.symm))
    refine ⟨now.plus rules.maxAdvance, Refusal.hints_of_detail rfl,
      checkTime_latest inCalendar lead ordered, ?_⟩
    intro other late
    exact tooFar_of_latest_lt inCalendar lead ordered late

end Hints

end Rules

namespace Sample

/-- The lead ends in the same leap second. -/
def shortLeadRules : Rules :=
  .within halfSecondRules.maxAdvance .oneSecond

end Sample

theorem Rules.hints_repair_insideLeap :
    (Sample.insideLeap ≤ .last ∧
      0 ≤ Sample.shortLeadRules.minLead.nanoseconds ∧
      Sample.shortLeadRules.minLead.nanoseconds ≤
        Sample.shortLeadRules.maxAdvance.nanoseconds) ∧
    (∃ refusal earliest,
      Sample.shortLeadRules.checkTime Sample.insideLeap Sample.insideLeap = .error refusal ∧
      refusal.Hints "earliest" earliest ∧
      Sample.shortLeadRules.checkTime earliest Sample.insideLeap = .ok () ∧
      ∀ other, other < earliest →
        ∃ cause, Sample.shortLeadRules.checkTime other Sample.insideLeap = .error cause) ∧
    ∃ refusal latest,
      Sample.shortLeadRules.checkTime .last Sample.insideLeap = .error refusal ∧
      refusal.Hints "latest" latest ∧
      Sample.shortLeadRules.checkTime latest Sample.insideLeap = .ok () ∧
      ∀ other, latest < other →
        ∃ cause, Sample.shortLeadRules.checkTime other Sample.insideLeap = .error cause ∧
          cause.report.code = .bookingTimeTooFar := by
  have inCalendar : Sample.insideLeap ≤ .last := by decide
  have lead : 0 ≤ Sample.shortLeadRules.minLead.nanoseconds := by decide
  have ordered : Sample.shortLeadRules.minLead.nanoseconds ≤
      Sample.shortLeadRules.maxAdvance.nanoseconds := by
    decide
  have tooSoon :
      Sample.shortLeadRules.checkTime Sample.insideLeap Sample.insideLeap =
        .error (.timeTooSoon (Sample.insideLeap.plus Sample.shortLeadRules.minLead)
          Sample.shortLeadRules.minLead) :=
    rfl
  have tooFar :
      Sample.shortLeadRules.checkTime .last Sample.insideLeap =
        .error (.timeTooFar (Sample.insideLeap.plus Sample.shortLeadRules.maxAdvance)
          Sample.shortLeadRules.maxAdvance) :=
    rfl
  obtain ⟨earliest, repaired⟩ := (hints_repair inCalendar lead ordered tooSoon).1 rfl
  obtain ⟨latest, withdrawn⟩ := (hints_repair inCalendar lead ordered tooFar).2 rfl
  exact ⟨⟨inCalendar, lead, ordered⟩, ⟨_, earliest, tooSoon, repaired⟩,
    _, latest, tooFar, withdrawn⟩

end TableBooking
