import TableBooking.Rules
import TableBooking.Workflow.Revision

/-!
# The booking workflow

Creating, editing and cancelling a booking. Each request comes with the caller and
the present time. A request on an existing booking is refused first for its caller,
then for the status of the booking, and last for what it asks. It writes to the booking
only after its last check.
-/

namespace TableBooking

/-- The stamp of a moment: its milliseconds since 1970, rounded down. -/
def DateTime.stamp (t : DateTime) : Int64 :=
  Int64.ofInt t.milliseconds

namespace Workflow

/-- Prepares the pending booking of a customer from a submitted form. -/
def prepareCreate (rules : Rules) (form : Option Form) (customerId : Option Uuid)
    (now : DateTime) : Outcome Booking := do
  let form ← Outcome.require .formMissing form
  let customerId ← Outcome.require .notAuthenticated customerId
  Outcome.ofExcept (rules.checkForm form now)
  let booking := { Booking.ofForm form customerId with
    status := .pending
    createdAt := some now.stamp }
  Outcome.tell (.prepared booking)
  return booking

/-- Refuses a caller who does not own the booking, and tells of the attempt. -/
def ensureOwner (booking : Booking) (caller : Uuid) (action : Action) : Outcome Unit := do
  if !booking.isOwnedBy caller then
    Outcome.tell (.ownerMismatch action booking.id caller)
    Outcome.refuse .notOwner

/-- Lets a request pass that comes from the owner, on a booking that is open to it, and
with nothing that fails its check. -/
def admission (booking : Booking) (caller : Uuid) (action : Action) (isOpen : Bool)
    (closed : Refusal) (check : Except Refusal Unit) : Outcome Unit := do
  ensureOwner booking caller action
  if !isOpen then
    Outcome.refuse closed
  Outcome.ofExcept check

/-- Writes the content of an edited form to the booking of the caller. -/
def applyUpdate (rules : Rules) (form : Form) (caller : Uuid) (now : DateTime) :
    Revision Unit := do
  let booking ← Revision.read
  admission booking caller .update booking.canBeEdited (.notEditable booking.status)
    (rules.checkForm form now)
  Revision.write fun booking => booking.withContent form
  Revision.write fun booking => { booking with updatedAt := some now.stamp }
  Outcome.tell (.updated booking.id caller)

def cancel (caller : Uuid) (reason : Option String) (now : DateTime) : Revision Unit := do
  let booking ← Revision.read
  admission booking caller .cancel booking.canBeCancelled (.notCancellable booking.status)
    (Rules.checkText "cancel_reason" maxNoteLength reason)
  Revision.write fun booking => { booking with status := .cancelled }
  Revision.write fun booking => { booking with cancelReason := reason }
  Revision.write fun booking => { booking with cancelledAt := some now.stamp }
  Revision.write fun booking => { booking with cancelledBy := some caller }
  Outcome.tell (.cancelled booking.id caller)

end Workflow

end TableBooking
