import TableBooking.Proofs.Log

/-!
# What every booking keeps

A booking that was prepared and then changed by any requests still belongs to the customer
it was prepared for, still fits the rules as of its last edit, and carries the fields of a
cancellation if and only if it is cancelled (`sound_afterAll`). Each accepted request keeps
the invariant `Sound`, and a refused one changes nothing.
-/

namespace TableBooking

/-- When the request edits the booking, if it asks for that. -/
def Request.editTime? : Request → Option DateTime
  | update _ _ now => some now
  | cancel _ _ _ => none

/-- A content that the rules allow at some time. -/
structure Form.Fits (rules : Rules) (now : DateTime) (form : Form) : Prop where
  time : now ≤ form.bookingTime
  guests : rules.minGuests ≤ form.guestCount ∧ form.guestCount ≤ rules.maxGuests
  deposit : 0 ≤ form.depositAmount.units
  note : ∀ text ∈ form.note, text.length ≤ maxNoteLength

theorem Form.fits_of_checkForm
    {rules : Rules} {form : Form} {now : DateTime}
    (passed : rules.checkForm form now = .ok ()) :
    form.Fits rules now := by
  obtain ⟨time, guests, deposit, note⟩ := (Rules.checkForm_eq_ok_iff rules form now).1 passed
  exact {
    time := ((Rules.checkTime_eq_ok_iff rules form.bookingTime now).1 time).1
    guests := (Rules.checkGuests_eq_ok_iff rules form.guestCount).1 guests
    deposit := (Rules.checkDeposit_eq_ok_iff form.depositAmount).1 deposit
    note := (Rules.checkText_eq_ok_iff "note" maxNoteLength form.note).1 note }

namespace Booking

/-- What a booking of the owner keeps that was created and last edited at given times. -/
structure Sound (rules : Rules) (owner : Uuid) (created edited : DateTime)
    (booking : Booking) : Prop where
  id : booking.id = none
  customerId : booking.customerId = owner
  createdAt : booking.createdAt = some created.stamp
  time : edited ≤ booking.bookingTime
  guests : rules.minGuests ≤ booking.guestCount ∧ booking.guestCount ≤ rules.maxGuests
  deposit : 0 ≤ booking.depositAmount.units
  note : ∀ text ∈ booking.note, text.length ≤ maxNoteLength
  status : booking.status = .pending ∨ booking.status = .cancelled
  cancelledAt : booking.status = .cancelled ↔ booking.cancelledAt.isSome = true
  cancelledBy : booking.status = .cancelled ↔ booking.cancelledBy = some booking.customerId
  cancelReason : booking.cancelReason.isSome = true → booking.status = .cancelled
  reason : ∀ text ∈ booking.cancelReason, text.length ≤ maxNoteLength

theorem sound_prepared
    {rules : Rules} {form : Form} {now : DateTime} (owner : Uuid)
    (passed : rules.checkForm form now = .ok ()) :
    (Workflow.prepared form owner now).Sound rules owner now now := by
  have fits := Form.fits_of_checkForm passed
  exact {
    id := rfl
    customerId := rfl
    createdAt := rfl
    time := fits.time
    guests := fits.guests
    deposit := fits.deposit
    note := fits.note
    status := Or.inl rfl
    cancelledAt := iff_of_false nofun nofun
    cancelledBy := iff_of_false nofun nofun
    cancelReason := nofun
    reason := nofun }

/-- An accepted request keeps a booking sound. An edit moves the time of the last edit. -/
theorem sound_applied
    {rules : Rules} {owner : Uuid} {created edited : DateTime} {booking : Booking}
    {request : Request}
    (sound : booking.Sound rules owner created edited)
    (decided : request.verdict rules booking = .ok ()) :
    (request.applied booking).Sound rules owner created
      (request.editTime?.getD edited) := by
  obtain ⟨isOwner, _, passed⟩ := (Request.verdict_eq_ok_iff rules booking request).1 decided
  cases request with
  | update form caller now =>
      have fits := Form.fits_of_checkForm passed
      exact {
        sound with
        time := fits.time
        guests := fits.guests
        deposit := fits.deposit
        note := fits.note }
  | cancel caller reason now =>
      have isOwner : caller = booking.customerId := isOwner
      have short : ∀ text ∈ reason, text.length ≤ maxNoteLength :=
        (Rules.checkText_eq_ok_iff "cancel_reason" maxNoteLength reason).1 passed
      exact {
        id := sound.id
        customerId := sound.customerId
        createdAt := sound.createdAt
        time := sound.time
        guests := sound.guests
        deposit := sound.deposit
        note := sound.note
        status := Or.inr rfl
        cancelledAt := iff_of_true rfl rfl
        cancelledBy := iff_of_true rfl (congrArg some isOwner)
        cancelReason := fun _ => rfl
        reason := short }

/-- When the booking was last edited, after the list of requests. -/
def lastEdit (rules : Rules) (booking : Booking) (edited : DateTime)
    (requests : List Request) : DateTime :=
  ((booking.accepted rules requests).filterMap Request.editTime?).getLastD edited

theorem lastEdit_cons_of_accepted
    {rules : Rules} {booking : Booking} {request : Request} (edited : DateTime)
    (rest : List Request)
    (decided : request.verdict rules booking = .ok ()) :
    booking.lastEdit rules edited (request :: rest) =
      (request.applied booking).lastEdit rules (request.editTime?.getD edited) rest := by
  rw [lastEdit, accepted_cons_of_accepted rest decided, lastEdit]
  cases request with
  | update form caller now =>
      have edits : (Request.update form caller now).editTime? = some now := rfl
      rw [List.filterMap_cons_some edits, List.getLastD_cons, edits, Option.getD_some]
  | cancel caller reason now =>
      have editsNothing : (Request.cancel caller reason now).editTime? = none := rfl
      rw [List.filterMap_cons_none editsNothing, editsNothing, Option.getD_none]

theorem sound_run
    {rules : Rules} {owner : Uuid} {created edited : DateTime} {booking : Booking}
    (requests : List Request)
    (sound : booking.Sound rules owner created edited) :
    (booking.afterAll rules requests).Sound rules owner created
      (booking.lastEdit rules edited requests) := by
  induction requests generalizing booking edited with
  | nil => exact sound
  | cons request rest inductionHypothesis =>
      cases decided : request.verdict rules booking with
      | ok _ =>
          rw [afterAll_cons_of_accepted rest decided,
            lastEdit_cons_of_accepted edited rest decided]
          exact inductionHypothesis (sound_applied sound decided)
      | error refusal =>
          rw [afterAll_cons_of_refused rest decided, lastEdit,
            accepted_cons_of_refused rest decided, ← lastEdit]
          exact inductionHypothesis sound

/-- Whatever requests come after its creation, and at whatever times, a booking stays
sound. -/
theorem sound_afterAll
    {rules : Rules} {form : Option Form} {customerId : Option Uuid} {created : DateTime}
    {booking : Booking} (requests : List Request)
    (isPrepared :
      (Workflow.prepareCreate rules form customerId created).result = .ok booking) :
    ∃ owner, customerId = some owner ∧
      (booking.afterAll rules requests).Sound rules owner created
        (booking.lastEdit rules created requests) := by
  obtain ⟨content, owner, _, isOwner, passed, rfl⟩ :=
    (Workflow.result_prepareCreate_eq_ok_iff ..).1 isPrepared
  exact ⟨owner, isOwner, sound_run requests (sound_prepared owner passed)⟩

theorem sound_after_evening :
    (Workflow.prepareCreate .standard (some (Sample.form 2)) (some Sample.owner)
        (Sample.second 0)).result =
        .ok (Workflow.prepared (Sample.form 2) Sample.owner (Sample.second 0)) ∧
      ∃ owner, some Sample.owner = some owner ∧
        ((Workflow.prepared (Sample.form 2) Sample.owner (Sample.second 0)).afterAll .standard
            Sample.requests).Sound .standard owner (Sample.second 0)
          ((Workflow.prepared (Sample.form 2) Sample.owner (Sample.second 0)).lastEdit
            .standard (Sample.second 0) Sample.requests) := by
  have isPrepared :
      (Workflow.prepareCreate .standard (some (Sample.form 2)) (some Sample.owner)
        (Sample.second 0)).result =
        .ok (Workflow.prepared (Sample.form 2) Sample.owner (Sample.second 0)) :=
    rfl
  exact ⟨isPrepared, sound_afterAll Sample.requests isPrepared⟩

end Booking

end TableBooking
