import TableBooking.Booking.Status
import TableBooking.Calendar.DateTime
import TableBooking.Decimal.Basic
import TableBooking.Uuid

/-!
# Bookings and their forms

A form is what a customer may fill in: the six content fields of a booking. It has
no field for the customer, so the owner of a booking is never taken from a form.

Two forms or bookings agree if their fields are equal and their deposits stand for
the same number.
-/

namespace TableBooking

/-- The content of a booking. -/
@[ext]
structure Form where
  restaurantId : Int64
  tableId : Option Int64
  guestCount : Int32
  bookingTime : DateTime
  depositAmount : Decimal
  note : Option String
  deriving DecidableEq

/-- A reservation at a restaurant. Its stamps are milliseconds since 1970. -/
@[ext]
structure Booking where
  /-- Given to the booking when it is stored. -/
  id : Option Int64
  /-- The owner. -/
  customerId : Uuid
  restaurantId : Int64
  tableId : Option Int64
  guestCount : Int32
  bookingTime : DateTime
  depositAmount : Decimal
  note : Option String
  status : Status
  createdAt : Option Int64
  updatedAt : Option Int64
  cancelledAt : Option Int64
  cancelReason : Option String
  cancelledBy : Option Uuid
  deriving DecidableEq

namespace Form

def blank : Form where
  restaurantId := 0
  tableId := none
  guestCount := 0
  bookingTime := .epoch
  depositAmount := .zero
  note := none

instance : Inhabited Form := ⟨blank⟩

/-- Do two forms agree in all fields, deposits as numbers? -/
def Agrees (a b : Form) : Prop :=
  a.restaurantId = b.restaurantId ∧ a.tableId = b.tableId ∧ a.guestCount = b.guestCount ∧
    a.bookingTime = b.bookingTime ∧ a.depositAmount.SameNumber b.depositAmount ∧
    a.note = b.note

instance (a b : Form) : Decidable (a.Agrees b) :=
  inferInstanceAs (Decidable (_ ∧ _ ∧ _ ∧ _ ∧ _ ∧ _))

end Form

namespace Booking

/-- The pending booking of a customer before its content is filled in. -/
def blank (customerId : Uuid) : Booking where
  id := none
  customerId := customerId
  restaurantId := 0
  tableId := none
  guestCount := 0
  bookingTime := .epoch
  depositAmount := .zero
  note := none
  status := .pending
  createdAt := none
  updatedAt := none
  cancelledAt := none
  cancelReason := none
  cancelledBy := none

/-- Do two bookings agree in all fields, deposits as numbers? -/
def Agrees (a b : Booking) : Prop :=
  a.id = b.id ∧ a.customerId = b.customerId ∧ a.restaurantId = b.restaurantId ∧
    a.tableId = b.tableId ∧ a.guestCount = b.guestCount ∧ a.bookingTime = b.bookingTime ∧
    a.depositAmount.SameNumber b.depositAmount ∧ a.note = b.note ∧ a.status = b.status ∧
    a.createdAt = b.createdAt ∧ a.updatedAt = b.updatedAt ∧ a.cancelledAt = b.cancelledAt ∧
    a.cancelReason = b.cancelReason ∧ a.cancelledBy = b.cancelledBy

instance (a b : Booking) : Decidable (a.Agrees b) :=
  inferInstanceAs (Decidable (_ ∧ _ ∧ _ ∧ _ ∧ _ ∧ _ ∧ _ ∧ _ ∧ _ ∧ _ ∧ _ ∧ _ ∧ _ ∧ _))

/-! ## Questions about a booking -/

def hasDeposit (booking : Booking) : Bool :=
  booking.depositAmount.isPositive

def canBeEdited (booking : Booking) : Bool :=
  booking.status.isOpen

def canBeCancelled (booking : Booking) : Bool :=
  booking.status.isOpen

def isOwnedBy (booking : Booking) (customerId : Uuid) : Bool :=
  booking.customerId == customerId

/-! ## Content -/

/-- The booking with its content replaced by a form. -/
def withContent (booking : Booking) (form : Form) : Booking :=
  { booking with
    restaurantId := form.restaurantId
    tableId := form.tableId
    guestCount := form.guestCount
    bookingTime := form.bookingTime
    depositAmount := form.depositAmount
    note := form.note }

/-- The new booking of a customer with the content of a form. -/
def ofForm (form : Form) (customerId : Uuid) : Booking :=
  (blank customerId).withContent form

/-- The form that shows the content of a booking. -/
def toForm (booking : Booking) : Form where
  restaurantId := booking.restaurantId
  tableId := booking.tableId
  guestCount := booking.guestCount
  bookingTime := booking.bookingTime
  depositAmount := booking.depositAmount
  note := booking.note

/-- The new booking of a customer, if there is a form for it. -/
def ofForm? (form : Option Form) (customerId : Uuid) : Option Booking :=
  form.map fun form => ofForm form customerId

/-- The form of a booking, if there is a booking. -/
def toForm? (booking : Option Booking) : Option Form :=
  booking.map toForm

/-- The booking with the content of the form, if there are both; without a form
the booking stays as it is. -/
def fill? : Option Booking → Option Form → Option Booking
  | some booking, some form => some (booking.withContent form)
  | booking, _ => booking

end Booking

end TableBooking
