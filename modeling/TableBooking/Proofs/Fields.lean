import TableBooking.Booking.Field
import TableBooking.Json.Record.Row
import TableBooking.Proofs.Record

/-!
# Records read field by field

A record is read if each of its fields is read: from the slot of its name
(`Fieldwise.bind_slots?_eq_some_iff`) or from the element at its place. So elements in a row are
read as members with the names of their places are (`Fieldwise.bind_slots?_zip`), and a row of
another length is not read at all (`Fieldwise.whole_eq_none`). Forms and bookings are read in
this way (`Form.fieldwise`, `Booking.fieldwise`).
-/

namespace TableBooking

open Json (InRow required optional nullable withDefault)

namespace Json

section Slots

variable {Field Slot Record : Type} {Value : Field → Type}

/-- A record that is read field by field is read if each slot is there and its field is read
from it. -/
theorem bind_mapM_eq_some_iff
    {fields : List Field} {ofSlots? : List Slot → Option Record}
    {read : (field : Field) → Slot → Option (Value field)}
    {get : Record → (field : Field) → Value field}
    (complete : ∀ field, field ∈ fields)
    (fieldwise : ∀ slot record, ofSlots? (fields.map slot) = some record ↔
      ∀ field, read field (slot field) = some (get record field))
    (slot? : Field → Option Slot) (record : Record) :
    (fields.mapM slot?).bind ofSlots? = some record ↔
      ∀ field, (slot? field).bind (read field) = some (get record field) := by
  simp only [Option.bind_eq_some_iff, mapM_eq_some_iff]
  constructor
  · rintro ⟨slots, held, decoded⟩
    have present : ∀ field, ∃ slot, slot? field = some slot := by
      intro field
      have member : slot? field ∈ slots.map some :=
        held ▸ List.mem_map_of_mem (complete field)
      obtain ⟨slot, _, same⟩ := List.mem_map.1 member
      exact ⟨slot, same.symm⟩
    obtain ⟨slot, holds⟩ := Classical.axiomOfChoice present
    have same : fields.map slot = slots := by
      apply (List.map_inj_right fun _ _ => Option.some.inj).1
      rw [← held, List.map_map]
      exact List.map_congr_left fun field _ => (holds field).symm
    subst same
    intro field
    exact ⟨slot field, holds field, (fieldwise slot record).1 decoded field⟩
  · intro isRead
    obtain ⟨slot, holds⟩ := Classical.axiomOfChoice isRead
    refine ⟨fields.map slot, ?_, ?_⟩
    · rw [List.map_map]
      exact List.map_congr_left fun field _ => (holds field).1
    · exact (fieldwise slot record).2 fun field => (holds field).2

end Slots

/-! ## Rows with an element for each field -/

theorem exists_eq_map
    {Field Value : Type} [DecidableEq Field] {fields : List Field} {elements : List (Option Value)}
    (distinct : fields.Nodup) (complete : elements.length = fields.length) :
    ∃ element : Field → Option Value, elements = fields.map element := by
  refine ⟨fun field => elements[fields.idxOf field]?.join, ?_⟩
  apply List.ext_getElem
  · rw [List.length_map, complete]
  · intro place inElements inFields
    rw [List.length_map] at inFields
    rw [List.getElem_map, distinct.idxOf_getElem place inFields,
      List.getElem?_eq_getElem inElements, Option.join_some]

/-- Is a record read field by field, both from slots and from a row? -/
structure Fieldwise {Field Record : Type} {Value : Field → Type} (fields : List Field)
    (name : Field → String) (read : (field : Field) → Option Json → Option (Value field))
    (get : Record → (field : Field) → Value field)
    (ofSlots? : List (Option Json) → Option Record) (inRow : InRow Record) : Prop where
  complete : ∀ field, field ∈ fields
  distinct : (fields.map name).Nodup
  bySlot : ∀ slot record, ofSlots? (fields.map slot) = some record ↔
    ∀ field, read field (slot field) = some (get record field)
  byPlace : ∀ element record, inRow.whole (fields.map element) = some record ↔
    ∀ field, (element field).bind (fun value => read field (some value)) =
      some (get record field)
  takes : inRow.Takes fields.length

/-- The members of a layout. Elements in a row have the names of their places. -/
def Layout.members (names : List String) : Layout → List (String × Option Json)
  | .named members => members
  | .inRow elements => names.zip elements

namespace Fieldwise

variable {Field Record : Type} {Value : Field → Type} {fields : List Field}
  {name : Field → String} {read : (field : Field) → Option Json → Option (Value field)}
  {get : Record → (field : Field) → Value field}
  {ofSlots? : List (Option Json) → Option Record} {inRow : InRow Record}
  (fieldwise : Fieldwise fields name read get ofSlots? inRow)

include fieldwise

theorem bind_slots?_eq_some_iff
    (members : List (String × Option Json)) (record : Record) :
    (slots? (fields.map name) members).bind ofSlots? = some record ↔
      ∀ field, ((slot? members (name field)).bind held?).bind (read field) =
        some (get record field) := by
  rw [slots?, List.mapM_map]
  exact bind_mapM_eq_some_iff fieldwise.complete fieldwise.bySlot _ record

theorem slot?_zip_map
    (element : Field → Option Json) (field : Field) :
    slot? ((fields.map name).zip (fields.map element)) (name field) =
      some (some (element field)) := by
  have length : (fields.map name).length = (fields.map element).length := by
    rw [List.length_map, List.length_map]
  have slots := map_slot?_zip fieldwise.distinct length
  rw [List.map_map, List.map_map] at slots
  exact List.map_inj_left.1 slots field (fieldwise.complete field)

/-- Elements in a row are read as the members that have the names of their places. -/
theorem bind_slots?_zip
    {elements : List (Option Json)}
    (length : elements.length = fields.length) :
    (slots? (fields.map name) ((fields.map name).zip elements)).bind ofSlots? =
      inRow.whole elements := by
  classical
  have distinct : fields.Nodup :=
    List.Pairwise.of_map name (fun _ _ apart same => apart (congrArg name same))
      fieldwise.distinct
  obtain ⟨element, rfl⟩ := exists_eq_map distinct length
  apply Option.ext
  intro record
  rw [fieldwise.bind_slots?_eq_some_iff, fieldwise.byPlace]
  apply forall_congr'
  intro field
  rw [fieldwise.slot?_zip_map element field, Option.bind_some, held?, Option.bind_map]
  rfl

/-- A row of another length is not read, whatever may be absent elsewhere. -/
theorem whole_eq_none
    {elements : List (Option Json)}
    (incomplete : elements.length ≠ fields.length) :
    inRow.whole elements = none := by
  cases isRead : inRow.whole elements with
  | none => rfl
  | some record => exact absurd (InRow.length_of_whole fieldwise.takes isRead) incomplete

/-- Each field of a record that is read is read from the member of its name. -/
theorem read_of_record?
    {layout : Layout} {record : Record}
    (isRead : layout.record? (fields.map name) ofSlots? inRow = some record) (field : Field) :
    ((slot? (layout.members (fields.map name)) (name field)).bind held?).bind (read field) =
      some (get record field) := by
  cases layout with
  | named members => exact (fieldwise.bind_slots?_eq_some_iff members record).1 isRead field
  | inRow elements =>
      have length := InRow.length_of_whole fieldwise.takes isRead
      have isRead : inRow.whole elements = some record := isRead
      rw [← fieldwise.bind_slots?_zip length] at isRead
      exact (fieldwise.bind_slots?_eq_some_iff _ record).1 isRead field

end Fieldwise

end Json

namespace Form

/-- Reads a field from the slot of its name. -/
def Field.read : (field : Field) → Option Json → Option field.Value
  | restaurantId => required Json.int64?
  | tableId => optional Json.int64?
  | guestCount => required Json.int32?
  | bookingTime => required DateTime.ofJson?
  | depositAmount => required Decimal.ofJson?
  | note => optional Json.string?

/-- The form of the values of its fields, if there is one for each. -/
def gather? (value? : (field : Field) → Option field.Value) : Option Form := do
  let restaurantId ← value? .restaurantId
  let tableId ← value? .tableId
  let guestCount ← value? .guestCount
  let bookingTime ← value? .bookingTime
  let depositAmount ← value? .depositAmount
  let note ← value? .note
  return ⟨restaurantId, tableId, guestCount, bookingTime, depositAmount, note⟩

theorem gather?_eq_some_iff
    (value? : (field : Field) → Option field.Value) (form : Form) :
    gather? value? = some form ↔ ∀ field, value? field = some (form.get field) := by
  constructor
  · intro gathered field
    obtain ⟨_, restaurant, gathered⟩ := Option.bind_eq_some_iff.1 gathered
    obtain ⟨_, table, gathered⟩ := Option.bind_eq_some_iff.1 gathered
    obtain ⟨_, guests, gathered⟩ := Option.bind_eq_some_iff.1 gathered
    obtain ⟨_, time, gathered⟩ := Option.bind_eq_some_iff.1 gathered
    obtain ⟨_, deposit, gathered⟩ := Option.bind_eq_some_iff.1 gathered
    obtain ⟨_, note, gathered⟩ := Option.bind_eq_some_iff.1 gathered
    obtain rfl := Option.some.inj gathered
    cases field with
    | restaurantId => exact restaurant
    | tableId => exact table
    | guestCount => exact guests
    | bookingTime => exact time
    | depositAmount => exact deposit
    | note => exact note
  · intro holds
    simp only [gather?, holds, Option.bind_eq_bind, Option.bind_some, Option.pure_def]
    rfl

theorem ofSlots?_map
    (slot : Field → Option Json) :
    ofSlots? (Field.all.map slot) = gather? fun field => field.read (slot field) :=
  rfl

theorem whole_inRow_map
    (element : Field → Option Json) :
    inRow.whole (Field.all.map element) =
      gather? fun field => (element field).bind fun value => field.read (some value) := by
  refine InRow.whole_bind_next_cons fun restaurantId => ?_
  refine InRow.whole_bind_next_cons fun tableId => ?_
  refine InRow.whole_bind_next_cons fun guestCount => ?_
  refine InRow.whole_bind_next_cons fun bookingTime => ?_
  refine InRow.whole_bind_next_cons fun depositAmount => ?_
  refine InRow.whole_bind_next_cons fun note => ?_
  exact InRow.whole_pure_nil _

theorem takes_inRow : inRow.Takes 6 := by
  refine InRow.takes_bind_next _ fun restaurantId => ?_
  refine InRow.takes_bind_next _ fun tableId => ?_
  refine InRow.takes_bind_next _ fun guestCount => ?_
  refine InRow.takes_bind_next _ fun bookingTime => ?_
  refine InRow.takes_bind_next _ fun depositAmount => ?_
  refine InRow.takes_bind_next _ fun note => ?_
  exact InRow.takes_pure _

theorem fieldwise :
    Json.Fieldwise Field.all Field.name Field.read get ofSlots? inRow where
  complete := Field.mem_all
  distinct := by decide
  bySlot := by
    intro slot record
    rw [ofSlots?_map, gather?_eq_some_iff]
  byPlace := by
    intro element record
    rw [whole_inRow_map, gather?_eq_some_iff]
  takes := takes_inRow

end Form

namespace Booking

/-- Reads a field from the slot of its name. -/
def Field.read : (field : Field) → Option Json → Option field.Value
  | id => optional Json.int64?
  | customerId => required Uuid.ofJson?
  | content field => field.read
  | status => withDefault Status.pending Status.ofJson?
  | createdAt => optional Json.int64?
  | updatedAt => optional Json.int64?
  | cancelledAt => optional Json.int64?
  | cancelReason => optional Json.string?
  | cancelledBy => optional Uuid.ofJson?

/-- The booking of the values of its fields, if there is one for each. -/
def gather? (value? : (field : Field) → Option field.Value) : Option Booking := do
  let id ← value? .id
  let customerId ← value? .customerId
  let restaurantId ← value? (.content .restaurantId)
  let tableId ← value? (.content .tableId)
  let guestCount ← value? (.content .guestCount)
  let bookingTime ← value? (.content .bookingTime)
  let depositAmount ← value? (.content .depositAmount)
  let note ← value? (.content .note)
  let status ← value? .status
  let createdAt ← value? .createdAt
  let updatedAt ← value? .updatedAt
  let cancelledAt ← value? .cancelledAt
  let cancelReason ← value? .cancelReason
  let cancelledBy ← value? .cancelledBy
  return ⟨id, customerId, restaurantId, tableId, guestCount, bookingTime, depositAmount, note,
    status, createdAt, updatedAt, cancelledAt, cancelReason, cancelledBy⟩

theorem gather?_eq_some_iff
    (value? : (field : Field) → Option field.Value) (booking : Booking) :
    gather? value? = some booking ↔ ∀ field, value? field = some (booking.get field) := by
  constructor
  · intro gathered field
    obtain ⟨_, id, gathered⟩ := Option.bind_eq_some_iff.1 gathered
    obtain ⟨_, owner, gathered⟩ := Option.bind_eq_some_iff.1 gathered
    obtain ⟨_, restaurant, gathered⟩ := Option.bind_eq_some_iff.1 gathered
    obtain ⟨_, table, gathered⟩ := Option.bind_eq_some_iff.1 gathered
    obtain ⟨_, guests, gathered⟩ := Option.bind_eq_some_iff.1 gathered
    obtain ⟨_, time, gathered⟩ := Option.bind_eq_some_iff.1 gathered
    obtain ⟨_, deposit, gathered⟩ := Option.bind_eq_some_iff.1 gathered
    obtain ⟨_, note, gathered⟩ := Option.bind_eq_some_iff.1 gathered
    obtain ⟨_, status, gathered⟩ := Option.bind_eq_some_iff.1 gathered
    obtain ⟨_, created, gathered⟩ := Option.bind_eq_some_iff.1 gathered
    obtain ⟨_, updated, gathered⟩ := Option.bind_eq_some_iff.1 gathered
    obtain ⟨_, cancelled, gathered⟩ := Option.bind_eq_some_iff.1 gathered
    obtain ⟨_, reason, gathered⟩ := Option.bind_eq_some_iff.1 gathered
    obtain ⟨_, canceller, gathered⟩ := Option.bind_eq_some_iff.1 gathered
    obtain rfl := Option.some.inj gathered
    match field with
    | .id => exact id
    | .customerId => exact owner
    | .content .restaurantId => exact restaurant
    | .content .tableId => exact table
    | .content .guestCount => exact guests
    | .content .bookingTime => exact time
    | .content .depositAmount => exact deposit
    | .content .note => exact note
    | .status => exact status
    | .createdAt => exact created
    | .updatedAt => exact updated
    | .cancelledAt => exact cancelled
    | .cancelReason => exact reason
    | .cancelledBy => exact canceller
  · intro holds
    simp only [gather?, holds, Option.bind_eq_bind, Option.bind_some, Option.pure_def]
    rfl

theorem ofSlots?_map
    (slot : Field → Option Json) :
    ofSlots? (Field.all.map slot) = gather? fun field => field.read (slot field) :=
  rfl

theorem whole_inRow_map
    (element : Field → Option Json) :
    inRow.whole (Field.all.map element) =
      gather? fun field => (element field).bind fun value => field.read (some value) := by
  refine InRow.whole_bind_next_cons fun id => ?_
  refine InRow.whole_bind_next_cons fun customerId => ?_
  refine InRow.whole_bind_next_cons fun restaurantId => ?_
  refine InRow.whole_bind_next_cons fun tableId => ?_
  refine InRow.whole_bind_next_cons fun guestCount => ?_
  refine InRow.whole_bind_next_cons fun bookingTime => ?_
  refine InRow.whole_bind_next_cons fun depositAmount => ?_
  refine InRow.whole_bind_next_cons fun note => ?_
  refine InRow.whole_bind_nextOr_cons fun status => ?_
  refine InRow.whole_bind_next_cons fun createdAt => ?_
  refine InRow.whole_bind_next_cons fun updatedAt => ?_
  refine InRow.whole_bind_next_cons fun cancelledAt => ?_
  refine InRow.whole_bind_next_cons fun cancelReason => ?_
  refine InRow.whole_bind_next_cons fun cancelledBy => ?_
  exact InRow.whole_pure_nil _

/-- The status has a default, but five elements have to come after it. -/
theorem takes_inRow : inRow.Takes 14 := by
  refine InRow.takes_bind_next _ fun id => ?_
  refine InRow.takes_bind_next _ fun customerId => ?_
  refine InRow.takes_bind_next _ fun restaurantId => ?_
  refine InRow.takes_bind_next _ fun tableId => ?_
  refine InRow.takes_bind_next _ fun guestCount => ?_
  refine InRow.takes_bind_next _ fun bookingTime => ?_
  refine InRow.takes_bind_next _ fun depositAmount => ?_
  refine InRow.takes_bind_next _ fun note => ?_
  refine InRow.takes_bind_nextOr _ _ fun status => ?_
  refine InRow.takes_bind_next _ fun createdAt => ?_
  refine InRow.takes_bind_next _ fun updatedAt => ?_
  refine InRow.takes_bind_next _ fun cancelledAt => ?_
  refine InRow.takes_bind_next _ fun cancelReason => ?_
  refine InRow.takes_bind_next _ fun cancelledBy => ?_
  exact InRow.takes_pure _

theorem fieldwise :
    Json.Fieldwise Field.all Field.name Field.read get ofSlots? inRow where
  complete := Field.mem_all
  distinct := by decide
  bySlot := by
    intro slot record
    rw [ofSlots?_map, gather?_eq_some_iff]
  byPlace := by
    intro element record
    rw [whole_inRow_map, gather?_eq_some_iff]
  takes := takes_inRow

end Booking

end TableBooking
