import TableBooking.Booking.Basic
import TableBooking.Calendar.Text
import TableBooking.Decimal.Text
import TableBooking.Json.Record
import TableBooking.Json.Writer

/-!
# Bookings and forms as JSON

A form is a record of six values and a booking one of fourteen. Both are written as
objects, and read from objects or arrays. Where an array is read, a missing element is not
made up for, except for the status of a booking.
-/

namespace TableBooking

open Json (required optional withDefault nullable)
open Json.InRow (next nextOr)

namespace Form

def names : List String :=
  ["restaurant_id", "table_id", "guest_count", "booking_time", "deposit_amount", "note"]

/-- The form whose fields are the values in the slots. -/
def ofSlots? : List (Option Json) → Option Form
  | [restaurantId, tableId, guestCount, bookingTime, depositAmount, note] => do
    let restaurantId ← required Json.int64? restaurantId
    let tableId ← optional Json.int64? tableId
    let guestCount ← required Json.int32? guestCount
    let bookingTime ← required DateTime.ofJson? bookingTime
    let depositAmount ← required Decimal.ofJson? depositAmount
    let note ← optional Json.string? note
    return ⟨restaurantId, tableId, guestCount, bookingTime, depositAmount, note⟩
  | _ => none

/-- The form whose fields are the next six elements. -/
def inRow : Json.InRow Form := do
  let restaurantId ← next Json.int64?
  let tableId ← next (nullable Json.int64?)
  let guestCount ← next Json.int32?
  let bookingTime ← next DateTime.ofJson?
  let depositAmount ← next Decimal.ofJson?
  let note ← next (nullable Json.string?)
  return ⟨restaurantId, tableId, guestCount, bookingTime, depositAmount, note⟩

def ofLayout? : Json.Layout → Option Form :=
  Json.Layout.record? names ofSlots? inRow

def ofJson? (value : Json) : Option Form :=
  value.layout?.bind ofLayout?

def values (form : Form) : List Json :=
  [.ofInt form.restaurantId.toInt,
    .ofOption (fun id => .ofInt id.toInt) form.tableId,
    .ofInt form.guestCount.toInt,
    form.bookingTime.toJson,
    form.depositAmount.toJson,
    .ofOption .string form.note]

def toJson (form : Form) : Json :=
  .object (names.zip form.values)

def ofText? (text : String) : Option Form :=
  (Json.layoutOf? text).bind ofLayout?

def toText (form : Form) : String :=
  form.toJson.write

end Form

namespace Booking

def names : List String :=
  ["id", "customer_id", "restaurant_id", "table_id", "guest_count", "booking_time",
    "deposit_amount", "note", "status", "created_at", "updated_at", "cancelled_at",
    "cancel_reason", "cancelled_by"]

/-- The booking whose fields are the values in the slots. -/
def ofSlots? : List (Option Json) → Option Booking
  | [id, customerId, restaurantId, tableId, guestCount, bookingTime, depositAmount, note,
      status, createdAt, updatedAt, cancelledAt, cancelReason, cancelledBy] => do
    let id ← optional Json.int64? id
    let customerId ← required Uuid.ofJson? customerId
    let restaurantId ← required Json.int64? restaurantId
    let tableId ← optional Json.int64? tableId
    let guestCount ← required Json.int32? guestCount
    let bookingTime ← required DateTime.ofJson? bookingTime
    let depositAmount ← required Decimal.ofJson? depositAmount
    let note ← optional Json.string? note
    let status ← withDefault Status.pending Status.ofJson? status
    let createdAt ← optional Json.int64? createdAt
    let updatedAt ← optional Json.int64? updatedAt
    let cancelledAt ← optional Json.int64? cancelledAt
    let cancelReason ← optional Json.string? cancelReason
    let cancelledBy ← optional Uuid.ofJson? cancelledBy
    return ⟨id, customerId, restaurantId, tableId, guestCount, bookingTime, depositAmount, note,
      status, createdAt, updatedAt, cancelledAt, cancelReason, cancelledBy⟩
  | _ => none

/-- The booking whose fields are the next fourteen elements. -/
def inRow : Json.InRow Booking := do
  let id ← next (nullable Json.int64?)
  let customerId ← next Uuid.ofJson?
  let restaurantId ← next Json.int64?
  let tableId ← next (nullable Json.int64?)
  let guestCount ← next Json.int32?
  let bookingTime ← next DateTime.ofJson?
  let depositAmount ← next Decimal.ofJson?
  let note ← next (nullable Json.string?)
  let status ← nextOr Status.pending Status.ofJson?
  let createdAt ← next (nullable Json.int64?)
  let updatedAt ← next (nullable Json.int64?)
  let cancelledAt ← next (nullable Json.int64?)
  let cancelReason ← next (nullable Json.string?)
  let cancelledBy ← next (nullable Uuid.ofJson?)
  return ⟨id, customerId, restaurantId, tableId, guestCount, bookingTime, depositAmount, note,
    status, createdAt, updatedAt, cancelledAt, cancelReason, cancelledBy⟩

def ofLayout? : Json.Layout → Option Booking :=
  Json.Layout.record? names ofSlots? inRow

def ofJson? (value : Json) : Option Booking :=
  value.layout?.bind ofLayout?

def values (booking : Booking) : List Json :=
  [.ofOption (fun id => .ofInt id.toInt) booking.id,
    booking.customerId.toJson,
    .ofInt booking.restaurantId.toInt,
    .ofOption (fun id => .ofInt id.toInt) booking.tableId,
    .ofInt booking.guestCount.toInt,
    booking.bookingTime.toJson,
    booking.depositAmount.toJson,
    .ofOption .string booking.note,
    booking.status.toJson,
    .ofOption (fun stamp => .ofInt stamp.toInt) booking.createdAt,
    .ofOption (fun stamp => .ofInt stamp.toInt) booking.updatedAt,
    .ofOption (fun stamp => .ofInt stamp.toInt) booking.cancelledAt,
    .ofOption .string booking.cancelReason,
    .ofOption Uuid.toJson booking.cancelledBy]

def toJson (booking : Booking) : Json :=
  .object (names.zip booking.values)

def ofText? (text : String) : Option Booking :=
  (Json.layoutOf? text).bind ofLayout?

def toText (booking : Booking) : String :=
  booking.toJson.write

end Booking

end TableBooking
