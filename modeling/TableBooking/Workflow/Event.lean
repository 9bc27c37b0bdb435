import TableBooking.Booking.Basic
import TableBooking.Calendar.Text
import TableBooking.Logging.Entry

/-!
# Audit events

What the workflow tells about its requests: each booking that was prepared, updated
or cancelled, and each attempt on a booking of another customer.
-/

namespace TableBooking

/-- A change that is asked for to an existing booking. -/
inductive Action where
  | update
  | cancel
  deriving DecidableEq, Repr

def Action.name : Action → String
  | .update => "update"
  | .cancel => "cancel"

/-- Something that the workflow tells about a request. -/
inductive AuditEvent where
  /-- A new booking was prepared. -/
  | prepared (booking : Booking)
  /-- The booking with this identifier was updated. -/
  | updated (bookingId : Option Int64) (customerId : Uuid)
  /-- The booking with this identifier was cancelled. -/
  | cancelled (bookingId : Option Int64) (customerId : Uuid)
  /-- Someone else than its owner tried to change the booking. -/
  | ownerMismatch (action : Action) (bookingId : Option Int64) (caller : Uuid)
  deriving DecidableEq

namespace AuditEvent

/-- The shown form of the identifier of a booking. -/
def shownId : Option Int64 → String
  | none => "None"
  | some id => "Some(" ++ Text.ofInt id.toInt ++ ")"

def bookingTarget : String := "booking_core::services::booking"

def securityTarget : String := "security"

def entry : AuditEvent → LogEntry
  | prepared booking => {
      level := .info
      target := bookingTarget
      message := some "Booking prepared"
      fields := [
        ("customer_id", .shown booking.customerId.text),
        ("restaurant_id", .number booking.restaurantId.toInt),
        ("guest_count", .number booking.guestCount.toInt),
        ("booking_time", .shown booking.bookingTime.shown)] }
  | updated bookingId customerId => {
      level := .info
      target := bookingTarget
      message := some "Booking updated"
      fields := [
        ("booking_id", .shown (shownId bookingId)),
        ("customer_id", .shown customerId.text)] }
  | cancelled bookingId customerId => {
      level := .info
      target := bookingTarget
      message := some "Booking cancelled"
      fields := [
        ("booking_id", .shown (shownId bookingId)),
        ("customer_id", .shown customerId.text)] }
  | ownerMismatch action bookingId caller => {
      level := .info
      target := securityTarget
      message := none
      fields := [
        ("level", .text Level.warn.name),
        ("event", .text "booking_owner_mismatch"),
        ("action", .text action.name),
        ("booking_id", .shown (shownId bookingId)),
        ("customer_id", .shown caller.text)] }

end AuditEvent

end TableBooking
