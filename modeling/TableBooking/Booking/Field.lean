import TableBooking.Booking.Basic

/-!
# The fields of forms and bookings

Each field of a form can be read from it and replaced in it. A field that is replaced leaves
the others as they are.

A booking has the six fields of its content and eight more. Filling in a form writes the six
(`get_withContent`) and leaves the eight (`get_withContent_of_not_content`), and the form that
is shown has the six (`get_toForm`).
-/

namespace TableBooking

/-- A record can be made of any values, so one with suitable fields exists if each of them can be
found on its own. -/
theorem exists_get_iff_of_lawful
    {Field Record : Type} {Value : Field → Type} {get : Record → (field : Field) → Value field}
    {ofValues : ((field : Field) → Value field) → Record}
    (lawful : ∀ value field, get (ofValues value) field = value field)
    {P : (field : Field) → Value field → Prop} :
    (∃ record, ∀ field, P field (get record field)) ↔ ∀ field, ∃ value, P field value := by
  constructor
  · rintro ⟨record, holds⟩ field
    exact ⟨get record field, holds field⟩
  · intro holds
    obtain ⟨value, holds⟩ := Classical.axiomOfChoice holds
    refine ⟨ofValues value, ?_⟩
    intro field
    rw [lawful]
    exact holds field

namespace Form

/-- A field of a form. -/
inductive Field where
  | restaurantId
  | tableId
  | guestCount
  | bookingTime
  | depositAmount
  | note
  deriving DecidableEq

namespace Field

def all : List Field :=
  [restaurantId, tableId, guestCount, bookingTime, depositAmount, note]

/-- The name of the field in the text of a form and in reports on it. -/
def name : Field → String
  | restaurantId => "restaurant_id"
  | tableId => "table_id"
  | guestCount => "guest_count"
  | bookingTime => "booking_time"
  | depositAmount => "deposit_amount"
  | note => "note"

def ofName? (name : String) : Option Field :=
  all.find? fun field => field.name == name

def Value : Field → Type
  | restaurantId => Int64
  | tableId => Option Int64
  | guestCount => Int32
  | bookingTime => DateTime
  | depositAmount => Decimal
  | note => Option String

theorem ofName?_name
    (field : Field) :
    ofName? field.name = some field := by
  cases field <;> rfl

theorem mem_all
    (field : Field) :
    field ∈ all := by
  cases field <;> decide

end Field

def get (form : Form) : (field : Field) → field.Value
  | .restaurantId => form.restaurantId
  | .tableId => form.tableId
  | .guestCount => form.guestCount
  | .bookingTime => form.bookingTime
  | .depositAmount => form.depositAmount
  | .note => form.note

def set (form : Form) : (field : Field) → field.Value → Form
  | .restaurantId, value => { form with restaurantId := value }
  | .tableId, value => { form with tableId := value }
  | .guestCount, value => { form with guestCount := value }
  | .bookingTime, value => { form with bookingTime := value }
  | .depositAmount, value => { form with depositAmount := value }
  | .note, value => { form with note := value }

theorem get_set_self
    (form : Form) (field : Field) (value : field.Value) :
    (form.set field value).get field = value := by
  cases field <;> rfl

theorem get_set_of_ne
    {field other : Field} (form : Form) (value : field.Value)
    (different : other ≠ field) :
    (form.set field value).get other = form.get other := by
  cases field <;> cases other <;> first | rfl | exact absurd rfl different

theorem ext_get
    {form other : Form}
    (same : ∀ field, form.get field = other.get field) :
    form = other :=
  Form.ext (same .restaurantId) (same .tableId) (same .guestCount) (same .bookingTime)
    (same .depositAmount) (same .note)

def ofValues (value : (field : Field) → field.Value) : Form where
  restaurantId := value .restaurantId
  tableId := value .tableId
  guestCount := value .guestCount
  bookingTime := value .bookingTime
  depositAmount := value .depositAmount
  note := value .note

theorem get_ofValues
    (value : (field : Field) → field.Value) (field : Field) :
    (ofValues value).get field = value field := by
  cases field <;> rfl

end Form

namespace Booking

/-- A field of a booking. -/
inductive Field where
  | id
  | customerId
  | content (field : Form.Field)
  | status
  | createdAt
  | updatedAt
  | cancelledAt
  | cancelReason
  | cancelledBy
  deriving DecidableEq

namespace Field

def all : List Field :=
  [id, customerId] ++ Form.Field.all.map content ++
    [status, createdAt, updatedAt, cancelledAt, cancelReason, cancelledBy]

/-- The name of the field in the text of a booking. -/
def name : Field → String
  | id => "id"
  | customerId => "customer_id"
  | content field => field.name
  | status => "status"
  | createdAt => "created_at"
  | updatedAt => "updated_at"
  | cancelledAt => "cancelled_at"
  | cancelReason => "cancel_reason"
  | cancelledBy => "cancelled_by"

def Value : Field → Type
  | id => Option Int64
  | customerId => Uuid
  | content field => field.Value
  | status => Status
  | createdAt => Option Int64
  | updatedAt => Option Int64
  | cancelledAt => Option Int64
  | cancelReason => Option String
  | cancelledBy => Option Uuid

def isContent : Field → Bool
  | content _ => true
  | _ => false

theorem mem_all
    (field : Field) :
    field ∈ all := by
  cases field with
  | content field => cases field <;> decide
  | _ => decide

end Field

def get (booking : Booking) : (field : Field) → field.Value
  | .id => booking.id
  | .customerId => booking.customerId
  | .content .restaurantId => booking.restaurantId
  | .content .tableId => booking.tableId
  | .content .guestCount => booking.guestCount
  | .content .bookingTime => booking.bookingTime
  | .content .depositAmount => booking.depositAmount
  | .content .note => booking.note
  | .status => booking.status
  | .createdAt => booking.createdAt
  | .updatedAt => booking.updatedAt
  | .cancelledAt => booking.cancelledAt
  | .cancelReason => booking.cancelReason
  | .cancelledBy => booking.cancelledBy

theorem ext_get
    {booking other : Booking}
    (same : ∀ field, booking.get field = other.get field) :
    booking = other :=
  Booking.ext (same .id) (same .customerId) (same (.content .restaurantId))
    (same (.content .tableId)) (same (.content .guestCount)) (same (.content .bookingTime))
    (same (.content .depositAmount)) (same (.content .note)) (same .status) (same .createdAt)
    (same .updatedAt) (same .cancelledAt) (same .cancelReason) (same .cancelledBy)

def ofValues (value : (field : Field) → field.Value) : Booking where
  id := value .id
  customerId := value .customerId
  restaurantId := value (.content .restaurantId)
  tableId := value (.content .tableId)
  guestCount := value (.content .guestCount)
  bookingTime := value (.content .bookingTime)
  depositAmount := value (.content .depositAmount)
  note := value (.content .note)
  status := value .status
  createdAt := value .createdAt
  updatedAt := value .updatedAt
  cancelledAt := value .cancelledAt
  cancelReason := value .cancelReason
  cancelledBy := value .cancelledBy

theorem get_ofValues
    (value : (field : Field) → field.Value) (field : Field) :
    (ofValues value).get field = value field := by
  cases field with
  | content field => cases field <;> rfl
  | _ => rfl

/-! ## Content -/

theorem get_withContent
    (booking : Booking) (form : Form) (field : Form.Field) :
    (booking.withContent form).get (.content field) = form.get field := by
  cases field <;> rfl

theorem get_withContent_of_not_content
    (booking : Booking) (form : Form) {field : Field}
    (apart : field.isContent = false) :
    (booking.withContent form).get field = booking.get field := by
  cases field with
  | content field => exact nomatch apart
  | _ => rfl

theorem get_toForm
    (booking : Booking) (field : Form.Field) :
    booking.toForm.get field = booking.get (.content field) := by
  cases field <;> rfl

/-- The fields of a booking are those of its content and the others. -/
theorem eq_of_content_of_others
    {booking other : Booking}
    (content : ∀ field : Form.Field, booking.get (.content field) = other.get (.content field))
    (others : ∀ field : Field, field.isContent = false → booking.get field = other.get field) :
    booking = other := by
  apply ext_get
  intro field
  cases field with
  | content field => exact content field
  | _ => exact others _ rfl

theorem toForm_withContent
    (booking : Booking) (form : Form) :
    (booking.withContent form).toForm = form := by
  apply Form.ext_get
  intro field
  rw [get_toForm, get_withContent]

theorem withContent_toForm
    (booking : Booking) :
    booking.withContent booking.toForm = booking := by
  apply eq_of_content_of_others
  · intro field
    rw [get_withContent, get_toForm]
  · intro field apart
    exact booking.get_withContent_of_not_content booking.toForm apart

theorem withContent_withContent
    (booking : Booking) (early late : Form) :
    (booking.withContent early).withContent late = booking.withContent late := by
  apply eq_of_content_of_others
  · intro field
    rw [get_withContent, get_withContent]
  · intro field apart
    rw [get_withContent_of_not_content _ late apart, get_withContent_of_not_content _ early apart,
      get_withContent_of_not_content _ late apart]

end Booking

end TableBooking
