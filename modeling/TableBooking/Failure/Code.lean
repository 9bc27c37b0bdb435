import TableBooking.Text.Digits

/-!
# Error codes

Every error that the booking service answers with has a code. Codes below 1000 are
about form input, those from 1000 about authentication, from 2000 about ownership,
from 4000 about booking rules, from 8000 about roles and from 9000 about the system.
-/

namespace TableBooking

/-- The kind of an error. -/
inductive ErrorCode where
  | validationFailed
  | requiredField
  | notAuthenticated
  | notBookingOwner
  | bookingNotEditable
  | bookingNotCancellable
  | bookingTimeInPast
  | bookingTimeTooSoon
  | bookingTimeTooFar
  | guestCountOutOfRange
  | negativeDeposit
  | roleInvalid
  | configError
  deriving DecidableEq, Repr

namespace ErrorCode

def all : List ErrorCode :=
  [validationFailed, requiredField, notAuthenticated, notBookingOwner, bookingNotEditable,
    bookingNotCancellable, bookingTimeInPast, bookingTimeTooSoon, bookingTimeTooFar,
    guestCountOutOfRange, negativeDeposit, roleInvalid, configError]

def name : ErrorCode → String
  | validationFailed => "ValidationFailed"
  | requiredField => "RequiredField"
  | notAuthenticated => "NotAuthenticated"
  | notBookingOwner => "NotBookingOwner"
  | bookingNotEditable => "BookingNotEditable"
  | bookingNotCancellable => "BookingNotCancellable"
  | bookingTimeInPast => "BookingTimeInPast"
  | bookingTimeTooSoon => "BookingTimeTooSoon"
  | bookingTimeTooFar => "BookingTimeTooFar"
  | guestCountOutOfRange => "GuestCountOutOfRange"
  | negativeDeposit => "NegativeDeposit"
  | roleInvalid => "RoleInvalid"
  | configError => "ConfigError"

def ofName? (name : String) : Option ErrorCode :=
  all.find? fun code => code.name == name

def number : ErrorCode → Nat
  | validationFailed => 2
  | requiredField => 7
  | notAuthenticated => 1001
  | notBookingOwner => 2006
  | bookingNotEditable => 4002
  | bookingNotCancellable => 4003
  | bookingTimeInPast => 4004
  | bookingTimeTooSoon => 4005
  | bookingTimeTooFar => 4006
  | guestCountOutOfRange => 4007
  | negativeDeposit => 4008
  | roleInvalid => 8101
  | configError => 9005

/-- The number of a code as it is shown, in four digits or more. -/
def shown (code : ErrorCode) : String :=
  "E" ++ String.ofList (Text.padded 4 code.number)

/-- The message of an error that has none of its own. -/
def message : ErrorCode → String
  | validationFailed => "Validation failed"
  | requiredField => "Required field is missing"
  | notAuthenticated => "User is not authenticated"
  | notBookingOwner => "You can only manage your own bookings"
  | bookingNotEditable => "This booking cannot be edited"
  | bookingNotCancellable => "This booking cannot be cancelled"
  | bookingTimeInPast => "Booking time cannot be in the past"
  | bookingTimeTooSoon => "Booking time is too soon"
  | bookingTimeTooFar => "Booking time is too far in the future"
  | guestCountOutOfRange => "Guest count is out of range"
  | negativeDeposit => "Deposit amount cannot be negative"
  | roleInvalid => "Invalid role"
  | configError => "Configuration error"

/-- Can the user mend the error by correcting a field of the form? -/
def isFieldError : ErrorCode → Bool
  | validationFailed => true
  | requiredField => true
  | bookingTimeInPast => true
  | bookingTimeTooSoon => true
  | bookingTimeTooFar => true
  | guestCountOutOfRange => true
  | negativeDeposit => true
  | roleInvalid => true
  | _ => false

def httpStatus : ErrorCode → Nat
  | notAuthenticated => 401
  | notBookingOwner => 403
  | bookingNotEditable => 422
  | bookingNotCancellable => 422
  | configError => 500
  | _ => 400

end ErrorCode

end TableBooking
