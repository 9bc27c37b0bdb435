import TableBooking.Booking.Basic
import TableBooking.Refusal

/-!
# Booking rules

A form is checked in a fixed order: booking time, party size, deposit and note. The
first rule that it breaks is the reason for which it is refused.
-/

namespace TableBooking

/-- The time window and the party sizes that are accepted. -/
@[ext]
structure Rules where
  /-- How long before its time a booking has to be made at the latest. -/
  minLead : Duration
  /-- How long before its time a booking may be made at the earliest. -/
  maxAdvance : Duration
  minGuests : Int32
  maxGuests : Int32
  deriving DecidableEq

/-- The greatest number of characters of a note or of the reason for a
cancellation. -/
def maxNoteLength : Nat := 500

namespace Rules

def standard : Rules where
  minLead := .thirtyMinutes
  maxAdvance := .thirtyDays
  minGuests := 1
  maxGuests := 100

instance : Inhabited Rules := ⟨standard⟩

def checkTime (rules : Rules) (time now : DateTime) : Except Refusal Unit :=
  let earliest := now.plus rules.minLead
  let latest := now.plus rules.maxAdvance
  if time < now then .error .timeInPast
  else if time < earliest then .error (.timeTooSoon earliest rules.minLead)
  else if latest < time then .error (.timeTooFar latest rules.maxAdvance)
  else .ok ()

def checkGuests (rules : Rules) (guests : Int32) : Except Refusal Unit :=
  if rules.minGuests ≤ guests ∧ guests ≤ rules.maxGuests then .ok ()
  else .error (.guestsOutOfRange rules.minGuests rules.maxGuests)

def checkDeposit (deposit : Decimal) : Except Refusal Unit :=
  if deposit.isNegative then .error .depositNegative else .ok ()

/-- Checks the length of a text, if there is one. -/
def checkText (field : String) (limit : Nat) : Option String → Except Refusal Unit
  | none => .ok ()
  | some text =>
    if limit < text.length then .error (.textTooLong field text.length limit) else .ok ()

def checkForm (rules : Rules) (form : Form) (now : DateTime) : Except Refusal Unit := do
  rules.checkTime form.bookingTime now
  rules.checkGuests form.guestCount
  checkDeposit form.depositAmount
  checkText "note" maxNoteLength form.note

end Rules

end TableBooking
