import TableBooking.Calendar.RoundTrip
import TableBooking.Decimal.RoundTrip
import TableBooking.Proofs.Record
import TableBooking.Uuid.RoundTrip

/-!
# Reading what was written

A form or a booking is read from its text as the very same one, digits of the deposit and
leap second included, if its deposit is no zero with a sign (`ofText?_toText`). Such a zero
loses its sign (`settled`). Each kind of field is read from the value that it is written as,
and a record has every value in the slot of its name.
-/

namespace TableBooking

/-! ## Single fields -/

namespace Json

theorem int64?_ofInt
    (n : Int64) :
    int64? (.ofInt n.toInt) = some n := by
  have read : (Json.ofInt n.toInt).integer? = some n.toInt := Number.integer?_ofInt n.toInt
  rw [int64?, read, Option.bind_some, int64OfInt?_toInt]

theorem int32?_ofInt
    (n : Int32) :
    int32? (.ofInt n.toInt) = some n := by
  have read : (Json.ofInt n.toInt).integer? = some n.toInt := Number.integer?_ofInt n.toInt
  rw [int32?, read, Option.bind_some, int32OfInt?_toInt]

theorem optional_ofOption
    {α : Type} {decode : Json → Option α} {form : α → Json} (held : Option α)
    (reads : ∀ value, decode (form value) = some value)
    (notNull : ∀ value, form value ≠ .null) :
    optional decode (some (ofOption form held)) = some held := by
  cases held with
  | none => rfl
  | some value =>
      rw [ofOption, optional, nullable, reads value, Option.map_some]
      exact notNull value

end Json

theorem DateTime.ofJson?_toJson
    (t : DateTime) :
    DateTime.ofJson? t.toJson = some t := by
  simp only [ofJson?, toJson, Json.string?, Option.bind_eq_bind, Option.bind_some]
  rw [text, String.toList_ofList, ofText?_chars]

theorem Decimal.ofJson?_toJson
    (d : Decimal) :
    Decimal.ofJson? d.toJson = some d.settled := by
  rw [toJson, ofJson?, text, String.toList_ofList, ofText?_chars d]

theorem Uuid.ofJson?_toJson
    (u : Uuid) :
    Uuid.ofJson? u.toJson = some u := by
  simp only [ofJson?, toJson, Json.string?, Option.bind_eq_bind, Option.bind_some]
  rw [text, String.toList_ofList, ofText?_chars]

theorem Status.ofJson?_toJson
    (status : Status) :
    Status.ofJson? status.toJson = some status := by
  cases status <;> decide

/-! ## Records -/

open Json (required optional withDefault)

theorem optional_int64
    (held : Option Int64) :
    optional Json.int64? (some (.ofOption (fun n => .ofInt n.toInt) held)) = some held :=
  Json.optional_ofOption held Json.int64?_ofInt fun _ => Json.noConfusion

theorem optional_string
    (held : Option String) :
    optional Json.string? (some (.ofOption .string held)) = some held :=
  Json.optional_ofOption held (fun _ => rfl) fun _ => Json.noConfusion

theorem optional_uuid
    (held : Option Uuid) :
    optional Uuid.ofJson? (some (.ofOption Uuid.toJson held)) = some held :=
  Json.optional_ofOption held Uuid.ofJson?_toJson fun _ => Json.noConfusion

namespace Form

/-- The form with its deposit settled. -/
def settled (form : Form) : Form :=
  { form with depositAmount := form.depositAmount.settled }

theorem settled_of_zeroUnsigned
    {form : Form}
    (unsigned : form.depositAmount.ZeroUnsigned) :
    form.settled = form := by
  rw [settled, Decimal.settled_of_zeroUnsigned unsigned]

theorem ofSlots?_values
    (form : Form) :
    ofSlots? (form.values.map some) = some form.settled := by
  simp only [values, List.map_cons, List.map_nil, ofSlots?, required, Json.int64?_ofInt,
    Json.int32?_ofInt, optional_int64, optional_string, DateTime.ofJson?_toJson,
    Decimal.ofJson?_toJson, Option.bind_eq_bind, Option.bind_some, Option.pure_def, settled]

theorem ofJson?_toJson_settled
    (form : Form) :
    Form.ofJson? form.toJson = some form.settled := by
  rw [ofJson?, toJson, Json.layout?_object_zip, Option.bind_some, ofLayout?, Json.Layout.record?,
    Json.slots?_zip (by decide) rfl, Option.bind_some, ofSlots?_values]

theorem ofJson?_toJson
    {form : Form}
    (unsigned : form.depositAmount.ZeroUnsigned) :
    Form.ofJson? form.toJson = some form := by
  rw [ofJson?_toJson_settled, settled_of_zeroUnsigned unsigned]

end Form

namespace Booking

/-- The booking with its deposit settled. -/
def settled (booking : Booking) : Booking :=
  { booking with depositAmount := booking.depositAmount.settled }

theorem settled_of_zeroUnsigned
    {booking : Booking}
    (unsigned : booking.depositAmount.ZeroUnsigned) :
    booking.settled = booking := by
  rw [settled, Decimal.settled_of_zeroUnsigned unsigned]

theorem ofSlots?_values
    (booking : Booking) :
    ofSlots? (booking.values.map some) = some booking.settled := by
  simp only [values, List.map_cons, List.map_nil, ofSlots?, required, withDefault,
    Json.int64?_ofInt, Json.int32?_ofInt, optional_int64, optional_string, optional_uuid,
    DateTime.ofJson?_toJson, Decimal.ofJson?_toJson, Uuid.ofJson?_toJson, Status.ofJson?_toJson,
    Option.bind_eq_bind, Option.bind_some, Option.pure_def, settled]

theorem ofJson?_toJson_settled
    (booking : Booking) :
    Booking.ofJson? booking.toJson = some booking.settled := by
  rw [ofJson?, toJson, Json.layout?_object_zip, Option.bind_some, ofLayout?, Json.Layout.record?,
    Json.slots?_zip (by decide) rfl, Option.bind_some, ofSlots?_values]

theorem ofJson?_toJson
    {booking : Booking}
    (unsigned : booking.depositAmount.ZeroUnsigned) :
    Booking.ofJson? booking.toJson = some booking := by
  rw [ofJson?_toJson_settled, settled_of_zeroUnsigned unsigned]

end Booking

/-- Forms and bookings are read from their texts. A zero with a sign is left out, since it
is written with its sign and read without. -/
theorem ofText?_toText :
    (∀ form : Form, form.depositAmount.ZeroUnsigned →
      Form.ofText? form.toText = some form) ∧
    ∀ booking : Booking, booking.depositAmount.ZeroUnsigned →
      Booking.ofText? booking.toText = some booking := by
  constructor
  · intro form unsigned
    rw [Form.toText, Form.ofText?_of_standsFor (Json.standsFor_write form.toJson),
      Form.ofJson?_toJson unsigned]
  · intro booking unsigned
    rw [Booking.toText, Booking.ofText?_of_standsFor (Json.standsFor_write booking.toJson),
      Booking.ofJson?_toJson unsigned]

namespace Sample

/-- A leap second of a year with five digits, the greatest deposit below zero with all of
its digits after the point, and a note that has to be escaped. -/
def corner : Booking where
  id := some Int64.minValue
  customerId := ⟨List.replicate 32 (Text.hexDigit 15), by decide⟩
  restaurantId := Int64.maxValue
  tableId := none
  guestCount := Int32.minValue
  bookingTime := {
    day := 3000000
    second := 86399
    nano := 1500000000
    day_ge := by decide
    day_le := by decide
    second_lt := DateTime.last.second_lt
    nano_lt := by decide
    leap_last := fun _ => rfl }
  depositAmount := ⟨true, 79228162514264337593543950335, 28, by decide, by decide⟩
  note := some "\"window\" \\ \u0001\n\u2028🪟"
  status := .noShow
  createdAt := none
  updatedAt := some 0
  cancelledAt := none
  cancelReason := some ""
  cancelledBy := none

end Sample

theorem ofText?_toText_corner :
    (Sample.corner.depositAmount.ZeroUnsigned ∧
      Form.ofText? Sample.corner.toForm.toText = some Sample.corner.toForm) ∧
    Booking.ofText? Sample.corner.toText = some Sample.corner := by
  have unsigned : Sample.corner.depositAmount.ZeroUnsigned := nofun
  exact ⟨⟨unsigned, ofText?_toText.1 Sample.corner.toForm unsigned⟩,
    ofText?_toText.2 Sample.corner unsigned⟩

end TableBooking
