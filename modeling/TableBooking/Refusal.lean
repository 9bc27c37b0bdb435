import TableBooking.Booking.Status
import TableBooking.Calendar.Text
import TableBooking.Failure.Report

/-!
# Refusals

The causes for which a request about a booking is refused, and the reports that they
are answered with.
-/

namespace TableBooking

/-- Why a request about a booking is refused. -/
inductive Refusal where
  /-- No form was submitted. -/
  | formMissing
  /-- The caller is not known. -/
  | notAuthenticated
  /-- The caller does not own the booking. -/
  | notOwner
  /-- A booking of this status cannot be edited. -/
  | notEditable (status : Status)
  /-- A booking of this status cannot be cancelled. -/
  | notCancellable (status : Status)
  /-- The booking time has passed. -/
  | timeInPast
  /-- The booking time leaves less than the lead that is needed. -/
  | timeTooSoon (earliest : DateTime) (lead : Duration)
  /-- The booking time lies beyond the window for bookings. -/
  | timeTooFar (latest : DateTime) (window : Duration)
  /-- The party is too small or too large. -/
  | guestsOutOfRange (min max : Int32)
  /-- The deposit is below zero. -/
  | depositNegative
  /-- A text has too many characters. -/
  | textTooLong (field : String) (length limit : Nat)
  deriving DecidableEq

namespace Refusal

def code : Refusal → ErrorCode
  | formMissing => .requiredField
  | notAuthenticated => .notAuthenticated
  | notOwner => .notBookingOwner
  | notEditable _ => .bookingNotEditable
  | notCancellable _ => .bookingNotCancellable
  | timeInPast => .bookingTimeInPast
  | timeTooSoon _ _ => .bookingTimeTooSoon
  | timeTooFar _ _ => .bookingTimeTooFar
  | guestsOutOfRange _ _ => .guestCountOutOfRange
  | depositNegative => .negativeDeposit
  | textTooLong _ _ _ => .validationFailed

def message : Refusal → String
  | formMissing => "booking is required"
  | notEditable status => "Booking cannot be edited in status " ++ status.name
  | notCancellable status => "Booking cannot be cancelled in status " ++ status.name
  | timeTooSoon _ lead =>
    "Booking must be made at least " ++ Text.ofInt lead.minutes ++ " minutes in advance"
  | timeTooFar _ window =>
    "Booking cannot be made more than " ++ Text.ofInt window.days ++ " days in advance"
  | guestsOutOfRange min max =>
    "Guest count must be between " ++ Text.ofInt min.toInt ++ " and " ++ Text.ofInt max.toInt
  | textTooLong field length limit =>
    field ++ " is too long (" ++ Text.ofNat length ++ " chars, max " ++ Text.ofNat limit ++ ")"
  | refusal => refusal.code.message

def details : Refusal → List (String × Json)
  | formMissing => [("field", .string "booking")]
  | notAuthenticated => []
  | notOwner => []
  | notEditable status => [("status", .string status.name)]
  | notCancellable status => [("status", .string status.name)]
  | timeInPast => [("field", .string "booking_time")]
  | timeTooSoon earliest _ =>
    [("field", .string "booking_time"), ("earliest", .string earliest.shown)]
  | timeTooFar latest _ =>
    [("field", .string "booking_time"), ("latest", .string latest.shown)]
  | guestsOutOfRange min max =>
    [("field", .string "guest_count"), ("min", .ofInt min.toInt), ("max", .ofInt max.toInt)]
  | depositNegative => [("field", .string "deposit_amount")]
  | textTooLong field _ _ => [("field", .string field)]

def report (refusal : Refusal) : ErrorReport where
  code := refusal.code
  message := refusal.message
  details := refusal.details

end Refusal

end TableBooking
