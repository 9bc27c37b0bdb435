import TableBooking.Calendar.DayNumber
import TableBooking.Decimal.Underflow
import TableBooking.Proofs.Members
import TableBooking.Proofs.RoundTrip

/-!
# Records that were read from any text

However a form or a booking was spelled in the text that it was read from, it is well formed,
and the text that it is written as is read as the same one again (`ofText?_rereads`). The one
exception is a deposit that underflows from below: it is read as a zero with a sign, and loses
that sign when it is read a second time. From then on nothing changes.
-/

namespace TableBooking

open Json (required optional)

/-! ## Single fields -/

/-- Is the moment on a date of the calendar, and in the last second of its minute if it is in a
leap second? -/
structure DateTime.WellFormed (t : DateTime) : Prop where
  date : t.date.Exists
  year_ge : -262143 ≤ t.date.year
  year_le : t.date.year ≤ 262142
  leap : t.InLeapSecond → t.second % 60 = 59

theorem DateTime.wellFormed
    (t : DateTime) :
    t.WellFormed := by
  have existing : t.date.Exists := Civil.exists_ofDayNumber t.day
  have number : t.date.dayNumber = t.day := Civil.dayNumber_ofDayNumber t.day
  have years := Civil.year_bounds existing (number ▸ t.day_ge) (number ▸ t.day_le)
  exact ⟨existing, years.1, years.2, t.leap_last⟩

/-- Does the amount have a mantissa of 96 bits and at most 28 places? -/
structure Decimal.WellFormed (d : Decimal) : Prop where
  mantissa_lt : d.mantissa < Nat.pow 2 96
  scale_le : d.scale ≤ 28

theorem Decimal.wellFormed
    (d : Decimal) :
    d.WellFormed where
  mantissa_lt := d.mantissa_lt
  scale_le := d.scale_le

namespace Json

theorem integer?_of_int64?
    {value : Json} {n : Int64}
    (isRead : int64? value = some n) :
    value.integer? = some n.toInt := by
  obtain ⟨i, written, fits⟩ := Option.bind_eq_some_iff.1 isRead
  rw [written, toInt_of_int64OfInt? fits]

theorem integer?_of_int32?
    {value : Json} {n : Int32}
    (isRead : int32? value = some n) :
    value.integer? = some n.toInt := by
  obtain ⟨i, written, fits⟩ := Option.bind_eq_some_iff.1 isRead
  rw [written, toInt_of_int32OfInt? fits]

theorem exists_of_required
    {α : Type} {decode : Json → Option α} {slot : Option Json} {value : α}
    (isRead : required decode slot = some value) :
    ∃ given, slot = some given ∧ decode given = some value := by
  cases slot with
  | none => exact nomatch isRead
  | some given => exact ⟨given, rfl, isRead⟩

theorem bind_integer?_of_optional
    {slot : Option Json} {held : Option Int64}
    (isRead : optional int64? slot = some held) :
    slot.bind integer? = held.map Int64.toInt := by
  cases slot with
  | none =>
      obtain rfl := Option.some.inj isRead
      rfl
  | some given =>
      have isRead : nullable int64? given = some held := isRead
      unfold nullable at isRead
      split at isRead
      · obtain rfl := Option.some.inj isRead
        rfl
      · obtain ⟨n, written, rfl⟩ := Option.map_eq_some_iff.1 isRead
        exact integer?_of_int64? written

/-! ## What a text gives for a field -/

/-- The value that the text of a record gives for one of its fields, as a member of that name
or at the place of the name. -/
def fieldOf? (names : List String) (text name : String) : Option Json :=
  (layoutOf? text).bind fun layout => (slot? (layout.members names) name).join.join

theorem read_join_of_bind_held?
    {α : Type} {read : Option Json → Option α} {slot : Option (Option (Option Json))} {value : α}
    (isRead : (slot.bind held?).bind read = some value) :
    read slot.join.join = some value := by
  match slot with
  | none => exact nomatch isRead
  | some none => exact isRead
  | some (some none) => exact nomatch isRead
  | some (some (some _)) => exact isRead

end Json

/-! ## Well formed records -/

/-- Does a form keep the whole numbers that the text gives for them, and are its time and its
deposit well formed? The deposit is a zero with a sign only if it underflows from below. -/
structure Form.WellRead (names : List String) (text : String) (form : Form) : Prop where
  restaurantId :
    (Json.fieldOf? names text "restaurant_id").bind Json.integer? =
      some form.restaurantId.toInt
  tableId :
    (Json.fieldOf? names text "table_id").bind Json.integer? = form.tableId.map Int64.toInt
  guestCount :
    (Json.fieldOf? names text "guest_count").bind Json.integer? = some form.guestCount.toInt
  bookingTime : form.bookingTime.WellFormed
  depositAmount : form.depositAmount.WellFormed
  depositSign :
    ∃ given, Json.fieldOf? names text "deposit_amount" = some given ∧
      (form.depositAmount.ZeroUnsigned ↔ ¬ Decimal.Vanishes given)

/-- Does a booking keep the whole numbers that the text gives for them, and is its content well
formed? -/
structure Booking.WellRead (text : String) (booking : Booking) : Prop where
  id : (Json.fieldOf? names text "id").bind Json.integer? = booking.id.map Int64.toInt
  content : booking.toForm.WellRead names text
  createdAt :
    (Json.fieldOf? names text "created_at").bind Json.integer? =
      booking.createdAt.map Int64.toInt
  updatedAt :
    (Json.fieldOf? names text "updated_at").bind Json.integer? =
      booking.updatedAt.map Int64.toInt
  cancelledAt :
    (Json.fieldOf? names text "cancelled_at").bind Json.integer? =
      booking.cancelledAt.map Int64.toInt

namespace Form

/-- A form is well read from the slots of its fields, whatever record they are part of. -/
theorem wellRead_of_fields
    {names : List String} {text : String} {form : Form}
    (isRead : ∀ field : Field,
      field.read (Json.fieldOf? names text field.name) = some (form.get field)) :
    form.WellRead names text := by
  obtain ⟨restaurantGiven, restaurantField, restaurantRead⟩ :=
    Json.exists_of_required (isRead .restaurantId)
  obtain ⟨guestsGiven, guestsField, guestsRead⟩ := Json.exists_of_required (isRead .guestCount)
  obtain ⟨depositGiven, depositField, depositRead⟩ :=
    Json.exists_of_required (isRead .depositAmount)
  exact {
    restaurantId := by
      have held : Json.fieldOf? names text "restaurant_id" = _ := restaurantField
      rw [held]
      exact Json.integer?_of_int64? restaurantRead
    tableId := Json.bind_integer?_of_optional (isRead .tableId)
    guestCount := by
      have held : Json.fieldOf? names text "guest_count" = _ := guestsField
      rw [held]
      exact Json.integer?_of_int32? guestsRead
    bookingTime := form.bookingTime.wellFormed
    depositAmount := form.depositAmount.wellFormed
    depositSign :=
      ⟨depositGiven, depositField, Decimal.zeroUnsigned_iff_of_ofJson? depositRead⟩ }

theorem wellRead_of_ofText?
    {text : String} {form : Form}
    (isRead : Form.ofText? text = some form) :
    form.WellRead names text := by
  obtain ⟨layout, laidOut, isRead⟩ := Option.bind_eq_some_iff.1 isRead
  apply wellRead_of_fields
  intro field
  rw [Json.fieldOf?, laidOut]
  exact Json.read_join_of_bind_held? (fieldwise.read_of_record? isRead field)

end Form

namespace Booking

theorem wellRead_of_ofText?
    {text : String} {booking : Booking}
    (isRead : Booking.ofText? text = some booking) :
    booking.WellRead text := by
  obtain ⟨layout, laidOut, isRead⟩ := Option.bind_eq_some_iff.1 isRead
  have isRead : ∀ field : Field,
      field.read (Json.fieldOf? names text field.name) = some (booking.get field) := by
    intro field
    rw [Json.fieldOf?, laidOut]
    exact Json.read_join_of_bind_held? (fieldwise.read_of_record? isRead field)
  have contentRead : ∀ field : Form.Field,
      field.read (Json.fieldOf? names text field.name) = some (booking.toForm.get field) := by
    intro field
    rw [get_toForm]
    exact isRead (.content field)
  exact {
    id := Json.bind_integer?_of_optional (isRead .id)
    content := Form.wellRead_of_fields contentRead
    createdAt := Json.bind_integer?_of_optional (isRead .createdAt)
    updatedAt := Json.bind_integer?_of_optional (isRead .updatedAt)
    cancelledAt := Json.bind_integer?_of_optional (isRead .cancelledAt) }

end Booking

/-! ## Reading again -/

namespace Json

theorem eq_of_write_eq
    {a b : Json}
    (same : a.write = b.write) :
    a = b := by
  have stands := standsFor_write a
  rw [same] at stands
  exact Option.some.inj (stands.symm.trans (standsFor_write b))

end Json

namespace Form

theorem zeroUnsigned_settled
    (form : Form) :
    form.settled.depositAmount.ZeroUnsigned :=
  form.depositAmount.zeroUnsigned_settled

theorem settled_agrees
    (form : Form) :
    form.settled.Agrees form :=
  ⟨rfl, rfl, rfl, rfl, form.depositAmount.sameNumber_settled, rfl⟩

theorem reread
    (form : Form) :
    Form.ofText? form.toText = some form.settled := by
  rw [toText, ofText?_of_standsFor (Json.standsFor_write form.toJson), ofJson?_toJson_settled]

theorem reread_settled
    (form : Form) :
    Form.ofText? form.settled.toText = some form.settled := by
  rw [reread, settled_of_zeroUnsigned form.zeroUnsigned_settled]

end Form

namespace Booking

theorem settled_agrees
    (booking : Booking) :
    booking.settled.Agrees booking :=
  ⟨rfl, rfl, rfl, rfl, rfl, rfl, booking.depositAmount.sameNumber_settled, rfl, rfl, rfl, rfl, rfl,
    rfl, rfl⟩

theorem reread
    (booking : Booking) :
    Booking.ofText? booking.toText = some booking.settled := by
  rw [toText, ofText?_of_standsFor (Json.standsFor_write booking.toJson),
    ofJson?_toJson_settled]

theorem reread_settled
    (booking : Booking) :
    Booking.ofText? booking.settled.toText = some booking.settled := by
  have unsigned : booking.settled.depositAmount.ZeroUnsigned :=
    booking.depositAmount.zeroUnsigned_settled
  rw [reread, settled_of_zeroUnsigned unsigned]

end Booking

/-- A form or a booking that was read from any text is well formed. The text that it is written
as is read as the same one, if its deposit is no zero with a sign, and else as the one without
that sign, which stands for the same number and does not change any more. -/
theorem ofText?_rereads
    (text : String) :
    (∀ form, Form.ofText? text = some form →
      form.WellRead Form.names text ∧
        (form.depositAmount.ZeroUnsigned → form.settled = form) ∧
          form.settled.Agrees form ∧
            Form.ofText? form.toText = some form.settled ∧
              Form.ofText? form.settled.toText = some form.settled) ∧
    ∀ booking, Booking.ofText? text = some booking →
      booking.WellRead text ∧
        (booking.depositAmount.ZeroUnsigned → booking.settled = booking) ∧
          booking.settled.Agrees booking ∧
            Booking.ofText? booking.toText = some booking.settled ∧
              Booking.ofText? booking.settled.toText = some booking.settled := by
  constructor
  · intro form isRead
    exact ⟨Form.wellRead_of_ofText? isRead, Form.settled_of_zeroUnsigned, form.settled_agrees,
      form.reread, form.reread_settled⟩
  · intro booking isRead
    exact ⟨Booking.wellRead_of_ofText? isRead, Booking.settled_of_zeroUnsigned,
      booking.settled_agrees, booking.reread, booking.reread_settled⟩

namespace Sample

/-- A booking whose members stand in another order than it is written in, and whose values are
spelled in other ways. -/
def spelled : Json :=
  .object [("note", .string "window seat"), ("deposit_amount", .string "+2_000.0e-1"),
    ("booking_time", .string " +10183 -9-21T23:59: 60.5000000009"), ("guest_count", .ofNat 4),
    ("customer_id", .string "urn:uuid:77777777-7777-7777-7777-777777777777"),
    ("remark", .null), ("restaurant_id", .ofNat 3), ("table_id", .ofNat 8)]

/-- The form that it is read as. -/
def spelledForm : Form :=
  { form 4 with bookingTime := corner.bookingTime }

def spelledBooking : Booking :=
  .ofForm spelledForm owner

end Sample

theorem Form.ofText?_spelled :
    Form.ofText? Sample.spelled.write = some Sample.spelledForm := by
  rw [Form.ofText?_of_standsFor (Json.standsFor_write Sample.spelled)]
  rfl

theorem Booking.ofText?_spelled :
    Booking.ofText? Sample.spelled.write = some Sample.spelledBooking := by
  rw [Booking.ofText?_of_standsFor (Json.standsFor_write Sample.spelled)]
  rfl

theorem ofText?_rereads_spelled :
    (Form.ofText? Sample.spelled.write = some Sample.spelledForm ∧
      Sample.spelledForm.depositAmount.ZeroUnsigned ∧
        Sample.spelledForm.WellRead Form.names Sample.spelled.write ∧
          Form.ofText? Sample.spelledForm.toText = some Sample.spelledForm) ∧
    Booking.ofText? Sample.spelled.write = some Sample.spelledBooking ∧
      Sample.spelledBooking.WellRead Sample.spelled.write ∧
        Booking.ofText? Sample.spelledBooking.toText = some Sample.spelledBooking := by
  have unsigned : Sample.spelledForm.depositAmount.ZeroUnsigned := nofun
  obtain ⟨formWellRead, sameForm, _, formAgain, _⟩ :=
    (ofText?_rereads Sample.spelled.write).1 Sample.spelledForm Form.ofText?_spelled
  obtain ⟨wellRead, same, _, again, _⟩ :=
    (ofText?_rereads Sample.spelled.write).2 Sample.spelledBooking Booking.ofText?_spelled
  rw [sameForm unsigned] at formAgain
  rw [same unsigned] at again
  exact ⟨⟨Form.ofText?_spelled, unsigned, formWellRead, formAgain⟩, Booking.ofText?_spelled,
    wellRead, again⟩

namespace Sample

/-- A form whose deposit underflows from below. -/
def tinyDeposit : Json :=
  .object (Form.names.zip
    [.ofNat 3, .ofNat 8, .ofNat 4, (form 4).bookingTime.toJson, .string "-0.4e-28",
      .string "window seat"])

def signedZero : Decimal :=
  { corner.depositAmount with
    mantissa := 0
    mantissa_lt := Decimal.zero.mantissa_lt }

/-- The form that it is read as. -/
def signedZeroForm : Form :=
  { form 4 with depositAmount := signedZero }

end Sample

theorem Form.ofText?_tinyDeposit :
    Form.ofText? Sample.tinyDeposit.write = some Sample.signedZeroForm := by
  rw [Form.ofText?_of_standsFor (Json.standsFor_write Sample.tinyDeposit)]
  rfl

/-- A deposit that underflows is read as a zero with a sign. It is not read so from its own
text, and the text changes once more. -/
theorem Form.reread_tinyDeposit :
    Form.ofText? Sample.tinyDeposit.write = some Sample.signedZeroForm ∧
      (Sample.signedZeroForm.depositAmount.mantissa = 0 ∧
        Sample.signedZeroForm.depositAmount.negative = true) ∧
      Form.ofText? Sample.signedZeroForm.toText ≠ some Sample.signedZeroForm ∧
      Sample.signedZeroForm.settled.toText ≠ Sample.signedZeroForm.toText := by
  refine ⟨ofText?_tinyDeposit, ⟨rfl, rfl⟩, ?_, ?_⟩
  · rw [Form.reread]
    decide
  · intro same
    have members := Json.object.inj (Json.eq_of_write_eq same)
    have deposits : some Sample.signedZeroForm.settled.depositAmount.toJson =
        some Sample.signedZeroForm.depositAmount.toJson :=
      congrArg (List.lookup "deposit_amount") members
    have texts := Json.string.inj (Option.some.inj deposits)
    have chars := String.ofList_injective texts
    exact absurd chars (by decide)

end TableBooking
