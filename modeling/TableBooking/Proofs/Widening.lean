import TableBooking.Proofs.Hints

/-!
# Wider rules

Rules are widened by a shorter lead, a longer window, and smaller or larger parties. Up to the
last moment of the calendar, a form that passes the check under some rules passes it under all
wider ones (`checkForm_of_widens`).
-/

namespace TableBooking.Rules

/-- Do the wide rules ask for at most the lead of the narrow ones, and leave at least their
window and their parties? -/
structure Widens (wide narrow : Rules) : Prop where
  lead_nonneg : 0 ≤ wide.minLead.nanoseconds
  lead_le : wide.minLead.nanoseconds ≤ narrow.minLead.nanoseconds
  window_nonneg : 0 ≤ narrow.maxAdvance.nanoseconds
  window_le : narrow.maxAdvance.nanoseconds ≤ wide.maxAdvance.nanoseconds
  minGuests_le : wide.minGuests ≤ narrow.minGuests
  maxGuests_le : narrow.maxGuests ≤ wide.maxGuests

section Widening

variable {wide narrow : Rules} {now : DateTime}

theorem checkTime_of_widens
    {time : DateTime}
    (inCalendar : now ≤ .last)
    (widens : wide.Widens narrow)
    (passed : narrow.checkTime time now = .ok ()) :
    wide.checkTime time now = .ok () := by
  obtain ⟨ahead, leadKept, inWindow⟩ := (checkTime_eq_ok_iff narrow time now).1 passed
  have shorterLead : now.plus wide.minLead ≤ now.plus narrow.minLead :=
    DateTime.plus_le_plus_of_longer widens.lead_nonneg widens.lead_le inCalendar
  have longerWindow : now.plus narrow.maxAdvance ≤ now.plus wide.maxAdvance :=
    DateTime.plus_le_plus_of_longer widens.window_nonneg widens.window_le inCalendar
  exact (checkTime_eq_ok_iff wide time now).2
    ⟨ahead, Std.le_trans shorterLead leadKept, Std.le_trans inWindow longerWindow⟩

theorem checkGuests_of_widens
    {guests : Int32}
    (widens : wide.Widens narrow)
    (passed : narrow.checkGuests guests = .ok ()) :
    wide.checkGuests guests = .ok () := by
  obtain ⟨enough, notTooMany⟩ := (checkGuests_eq_ok_iff narrow guests).1 passed
  exact (checkGuests_eq_ok_iff wide guests).2
    ⟨Int32.le_trans widens.minGuests_le enough, Int32.le_trans notTooMany widens.maxGuests_le⟩

/-- A form that passes its check under narrow rules passes it under wide ones, whether or not
the lead or the window of either leads out of the calendar. -/
theorem checkForm_of_widens
    {form : Form}
    (inCalendar : now ≤ .last)
    (widens : wide.Widens narrow)
    (passed : narrow.checkForm form now = .ok ()) :
    wide.checkForm form now = .ok () := by
  obtain ⟨time, guests, deposit, note⟩ := (checkForm_eq_ok_iff narrow form now).1 passed
  exact (checkForm_eq_ok_iff wide form now).2
    ⟨checkTime_of_widens inCalendar widens time, checkGuests_of_widens widens guests, deposit,
      note⟩

end Widening

end TableBooking.Rules

namespace TableBooking

namespace Sample

/-- The window ends after the calendar. -/
def wideRules : Rules where
  minLead := .zero
  maxAdvance := longest
  minGuests := -4
  maxGuests := 101

/-- A booking late in the leap second. -/
def leapForm : Form :=
  { form 100 with bookingTime := minuteEnd.withNano 1_900_000_000 (by decide) (by decide) }

end Sample

theorem Rules.checkForm_of_widens_insideLeap :
    (Sample.insideLeap ≤ .last ∧ Sample.wideRules.Widens Sample.shortLeadRules ∧
      Sample.shortLeadRules.checkForm Sample.leapForm Sample.insideLeap = .ok ()) ∧
    Sample.wideRules.checkForm Sample.leapForm Sample.insideLeap = .ok () := by
  have inCalendar : Sample.insideLeap ≤ .last := by decide
  have widens : Sample.wideRules.Widens Sample.shortLeadRules := by
    constructor <;> decide
  have passed : Sample.shortLeadRules.checkForm Sample.leapForm Sample.insideLeap = .ok () := rfl
  exact ⟨⟨inCalendar, widens, passed⟩, Rules.checkForm_of_widens inCalendar widens passed⟩

end TableBooking
