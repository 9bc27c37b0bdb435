import TableBooking.Proofs.Members

/-!
# Which members a stored booking is read from

A booking is read from the object in a text by the names of its fourteen fields, each field
from the one member of its name (`ofText?_memberwise`). Five fields have to be there. Eight
others may be absent or `null`, which comes to the same. The status may be absent, and is then
that of a new booking, but not `null`. Two members of one name are too many, whatever they say
(`ofText?_repeated`).
-/

namespace TableBooking

open Json (optional withDefault)

namespace Json

/-! ## A member that is added to others -/

/-- Is there at most one member of the name, with a value that can be decoded? -/
def GivenOrLeftOut {α : Type} (decode : Json → Option α)
    (members : List (String × Option Json)) (name : String) : Prop :=
  named members name = [] ∨ Given decode members name

theorem exists_member?_withDefault_iff
    {α : Type} (default : α) (decode : Json → Option α)
    (members : List (String × Option Json)) (name : String) :
    (∃ value, member? (withDefault default decode) members name = some value) ↔
      GivenOrLeftOut decode members name := by
  rw [exists_member?_iff, GivenOrLeftOut, Given]
  simp only [withDefault, Option.some.injEq, exists_eq', and_true, Option.isSome_iff_exists]

section Added

variable {α : Type} (read : Option Json → Option α)
  {before after : List (String × Option Json)} {name wanted : String} {value : Json}

theorem named_append
    (before after : List (String × Option Json)) (name : String) :
    named (before ++ after) name = named before name ++ named after name :=
  List.filter_append ..

theorem member?_of_absent
    {members : List (String × Option Json)}
    (absent : named members name = []) :
    member? read members name = read none := by
  rw [member?, (bind_held?_eq_some_none_iff members name).2 absent, Option.bind_some]

theorem member?_added_self
    (absent : named (before ++ after) name = []) :
    member? read (before ++ (name, some value) :: after) name = read (some value) := by
  rw [named_append, List.append_eq_nil_iff] at absent
  have single :
      named (before ++ (name, some value) :: after) name = [(name, some value)] := by
    rw [named_append, named_cons_self, absent.1, absent.2, List.nil_append]
  rw [member?, (bind_held?_eq_some_some_iff _ name value).2 single, Option.bind_some]

theorem member?_added_of_ne
    (different : name ≠ wanted) :
    member? read (before ++ (name, some value) :: after) wanted =
      member? read (before ++ after) wanted := by
  apply member?_eq_of_perm
  rw [named_append, named_append, named_cons_of_ne after (some value) different]

/-- A member that something is read from is the only one of its name. -/
theorem absent_of_member?_added
    {result : α}
    (isRead : member? read (before ++ (name, some value) :: after) name = some result) :
    named (before ++ after) name = [] := by
  have found := (exists_member?_iff read _ name).1 ⟨result, isRead⟩
  rw [named_append, named_cons_self] at found
  rw [named_append, List.append_eq_nil_iff]
  rcases found with ⟨none, _⟩ | ⟨written, single, _⟩
  · simp at none
  · have length := congrArg List.length single
    simp only [List.length_append, List.length_cons, List.length_nil] at length
    constructor
    · apply List.eq_nil_of_length_eq_zero
      omega
    · apply List.eq_nil_of_length_eq_zero
      omega

end Added

end Json

namespace Booking

open Json (Given GivenOrNot GivenOrLeftOut member? membersOf named)

/-! ## Fields and members -/

/-- Each field is read from the members of its name alone. -/
theorem ofText?_eq_some_iff
    {text : String} {members : List (String × Option Json)}
    (isObject : Json.members? text = some members) (booking : Booking) :
    Booking.ofText? text = some booking ↔
      ∀ field : Field, member? field.read members field.name = some (booking.get field) := by
  rw [ofText?, Json.layoutOf?_of_members? isObject]
  exact fieldwise.bind_slots?_eq_some_iff members booking

/-- Do the members give each field a value? -/
structure GivenBy (members : List (String × Option Json)) : Prop where
  id : GivenOrNot Json.int64? members "id"
  customerId : Given Uuid.ofJson? members "customer_id"
  content : Form.GivenBy members
  status : GivenOrLeftOut Status.ofJson? members "status"
  createdAt : GivenOrNot Json.int64? members "created_at"
  updatedAt : GivenOrNot Json.int64? members "updated_at"
  cancelledAt : GivenOrNot Json.int64? members "cancelled_at"
  cancelReason : GivenOrNot Json.string? members "cancel_reason"
  cancelledBy : GivenOrNot Uuid.ofJson? members "cancelled_by"

theorem forall_exists_member?_iff
    (members : List (String × Option Json)) :
    (∀ field : Field, ∃ value, member? field.read members field.name = some value) ↔
      GivenBy members := by
  constructor
  · intro isRead
    exact {
      id := (Json.exists_member?_optional_iff ..).1 (isRead .id)
      customerId := (Json.exists_member?_required_iff ..).1 (isRead .customerId)
      content := (Form.forall_exists_member?_iff members).1 fun field => isRead (.content field)
      status := (Json.exists_member?_withDefault_iff ..).1 (isRead .status)
      createdAt := (Json.exists_member?_optional_iff ..).1 (isRead .createdAt)
      updatedAt := (Json.exists_member?_optional_iff ..).1 (isRead .updatedAt)
      cancelledAt := (Json.exists_member?_optional_iff ..).1 (isRead .cancelledAt)
      cancelReason := (Json.exists_member?_optional_iff ..).1 (isRead .cancelReason)
      cancelledBy := (Json.exists_member?_optional_iff ..).1 (isRead .cancelledBy) }
  · intro given field
    cases field with
    | id => exact (Json.exists_member?_optional_iff ..).2 given.id
    | customerId => exact (Json.exists_member?_required_iff ..).2 given.customerId
    | content field => exact (Form.forall_exists_member?_iff members).2 given.content field
    | status => exact (Json.exists_member?_withDefault_iff ..).2 given.status
    | createdAt => exact (Json.exists_member?_optional_iff ..).2 given.createdAt
    | updatedAt => exact (Json.exists_member?_optional_iff ..).2 given.updatedAt
    | cancelledAt => exact (Json.exists_member?_optional_iff ..).2 given.cancelledAt
    | cancelReason => exact (Json.exists_member?_optional_iff ..).2 given.cancelReason
    | cancelledBy => exact (Json.exists_member?_optional_iff ..).2 given.cancelledBy

theorem isSome_ofText?_iff
    {text : String} {members : List (String × Option Json)}
    (isObject : Json.members? text = some members) :
    (Booking.ofText? text).isSome = true ↔ GivenBy members := by
  rw [Option.isSome_iff_exists, ← forall_exists_member?_iff]
  simp only [ofText?_eq_some_iff isObject]
  exact exists_get_iff_of_lawful get_ofValues (P := fun field value =>
    member? field.read members field.name = some value)

/-- Objects with the same members for the fields, in whatever order, are read alike. -/
theorem ofText?_eq_of_perm
    {text other : String} {members others : List (String × Option Json)}
    (isObject : Json.members? text = some members)
    (otherIsObject : Json.members? other = some others)
    (permutation : (membersOf names members).Perm (membersOf names others)) :
    Booking.ofText? text = Booking.ofText? other := by
  rw [ofText?, ofText?, Json.layoutOf?_of_members? isObject,
    Json.layoutOf?_of_members? otherIsObject]
  exact congrArg (fun slots => slots.bind ofSlots?) (Json.slots?_eq_of_perm permutation)

/-! ## Members that say no more than their absence -/

/-- The names of the fields that may be absent or `null`. -/
def optionalNames : List String :=
  ["id", "table_id", "note", "created_at", "updated_at", "cancelled_at", "cancel_reason",
    "cancelled_by"]

/-- Does the member stand for what its absence stands for? -/
def SaysNothing (name : String) (value : Json) : Prop :=
  name ∈ optionalNames ∧ value = .null ∨
    name = "status" ∧ Status.ofJson? value = some .pending

theorem Field.read_of_saysNothing
    {field : Field} {value : Json}
    (saysNothing : SaysNothing field.name value) :
    field.read (some value) = field.read none := by
  rcases saysNothing with ⟨isOptional, rfl⟩ | ⟨isStatus, isPending⟩
  · cases field with
    | customerId => exact absurd isOptional (by decide)
    | status => exact absurd isOptional (by decide)
    | content field =>
        cases field with
        | tableId => rfl
        | note => rfl
        | _ => exact absurd isOptional (by decide)
    | _ => rfl
  · cases field with
    | status => exact isPending
    | content field => cases field <;> exact absurd isStatus (by decide)
    | _ => exact absurd isStatus (by decide)

theorem exists_field_of_saysNothing
    {name : String} {value : Json}
    (saysNothing : SaysNothing name value) :
    ∃ field : Field, field.name = name := by
  rcases saysNothing with ⟨isOptional, _⟩ | ⟨rfl, _⟩
  · have isField : ∀ name ∈ optionalNames, name ∈ Field.all.map Field.name := by
      decide
    obtain ⟨field, _, same⟩ := List.mem_map.1 (isField name isOptional)
    exact ⟨field, same⟩
  · exact ⟨.status, rfl⟩

section Added

variable {text other name : String} {before after : List (String × Option Json)} {value : Json}
  (otherIsObject : Json.members? other = some (before ++ (name, some value) :: after))
  (saysNothing : SaysNothing name value)

include otherIsObject saysNothing

theorem ofText?_added
    (isObject : Json.members? text = some (before ++ after))
    (absent : named (before ++ after) name = []) :
    Booking.ofText? other = Booking.ofText? text := by
  apply Option.ext
  intro booking
  rw [ofText?_eq_some_iff otherIsObject, ofText?_eq_some_iff isObject]
  apply forall_congr'
  intro field
  by_cases same : name = field.name
  · subst same
    rw [Json.member?_added_self field.read absent, Json.member?_of_absent field.read absent,
      Field.read_of_saysNothing saysNothing]
  · rw [Json.member?_added_of_ne field.read same]

theorem ofText?_added_of_present
    (present : named (before ++ after) name ≠ []) :
    Booking.ofText? other = none := by
  obtain ⟨field, rfl⟩ := exists_field_of_saysNothing saysNothing
  cases isRead : Booking.ofText? other with
  | none => rfl
  | some booking =>
      have fieldRead := (ofText?_eq_some_iff otherIsObject booking).1 isRead field
      exact absurd (Json.absent_of_member?_added field.read fieldRead) present

end Added

end Booking

/-- A text with an object is a booking if and only if its members give each field a value, and
it is read as any other object with the same members for the fields. To add `null` for an
optional field or the status of a new booking changes nothing where there is no member of that
name, and neither does leaving it out again. Beside another member of its name it makes the
object no booking. -/
theorem Booking.ofText?_memberwise
    {text : String} {members : List (String × Option Json)}
    (isObject : Json.members? text = some members) :
    ((Booking.ofText? text).isSome = true ↔ GivenBy members) ∧
    (∀ booking, Booking.ofText? text = some booking ↔
      ∀ field : Field,
        Json.member? field.read members field.name = some (booking.get field)) ∧
    (∀ other others, Json.members? other = some others →
      (Json.membersOf names members).Perm (Json.membersOf names others) →
      Booking.ofText? text = Booking.ofText? other) ∧
    ∀ other before name value after,
      members = before ++ after →
      Json.members? other = some (before ++ (name, some value) :: after) →
      SaysNothing name value →
      (Json.named members name = [] → Booking.ofText? other = Booking.ofText? text) ∧
        (Json.named members name ≠ [] → Booking.ofText? other = none) := by
  refine ⟨isSome_ofText?_iff isObject, ofText?_eq_some_iff isObject, ?_, ?_⟩
  · intro other others otherIsObject permutation
    exact ofText?_eq_of_perm isObject otherIsObject permutation
  · rintro other before name value after rfl otherIsObject saysNothing
    constructor
    · intro absent
      exact ofText?_added otherIsObject saysNothing isObject absent
    · intro present
      exact ofText?_added_of_present otherIsObject saysNothing present

/-! ## A booking with little to say -/

namespace Sample

/-- The members that a booking cannot do without, in reverse. -/
def bare : List (String × Json) :=
  [("deposit_amount", .string "200.00"), ("booking_time", (form 4).bookingTime.toJson),
    ("guest_count", .ofNat 4), ("restaurant_id", .ofNat 3), ("customer_id", owner.toJson)]

/-- The same booking with the status that it has without one. -/
def pending : List (String × Json) :=
  ("status", .object [("PENDING", .null)]) :: bare

end Sample

theorem Booking.ofText?_bare :
    Json.members? (Json.object Sample.bare).write =
        some (Sample.bare.map fun entry => (entry.1, some entry.2)) ∧
      GivenBy (Sample.bare.map fun entry => (entry.1, some entry.2)) ∧
      SaysNothing "status" (.object [("PENDING", .null)]) ∧
      Booking.ofText? (Json.object Sample.pending).write =
        Booking.ofText? (Json.object Sample.bare).write := by
  have isObject := Json.members?_of_standsFor (Json.standsFor_write (.object Sample.bare))
  have pendingIsObject :=
    Json.members?_of_standsFor (Json.standsFor_write (.object Sample.pending))
  have saysNothing : SaysNothing "status" (.object [("PENDING", .null)]) := Or.inr ⟨rfl, rfl⟩
  obtain ⟨given, _, _, added⟩ := Booking.ofText?_memberwise isObject
  have isRead : (Booking.ofText? (Json.object Sample.bare).write).isSome = true := by
    rw [Booking.ofText?_of_standsFor (Json.standsFor_write (.object Sample.bare))]
    rfl
  exact ⟨isObject, given.1 isRead, saysNothing,
    (added _ [] "status" _ _ rfl pendingIsObject saysNothing).1 rfl⟩

/-- A status may be left out, but not be `null`. -/
example : Status.ofJson? .null = none :=
  rfl

/-! ## Members of one name -/

namespace Sample

/-- The booking with its missing identifier written out a number of times. -/
def unstored (count : Nat) : Json :=
  .object (List.replicate count ("id", .null) ++ bare)

/-- A confirmed booking, and one that is said to be pending a number of times before. -/
def confirmed (count : Nat) : Json :=
  .object (List.replicate count ("status", .string "PENDING") ++
    ("status", .string "CONFIRMED") :: bare)

end Sample

/-- One of two members that both say nothing cannot be left out, and neither can the status of a
new booking beside another status: the object is a booking without it, but not with it. -/
theorem Booking.ofText?_repeated :
    (SaysNothing "id" .null ∧
      (Booking.ofText? (Sample.unstored 1).write).isSome = true ∧
      Booking.ofText? (Sample.unstored 2).write = none) ∧
    SaysNothing "status" (.string "PENDING") ∧
      (Booking.ofText? (Sample.confirmed 0).write).isSome = true ∧
      Booking.ofText? (Sample.confirmed 1).write = none := by
  have once := Json.standsFor_write (Sample.unstored 1)
  have twice := Json.standsFor_write (Sample.unstored 2)
  have confirmed := Json.standsFor_write (Sample.confirmed 0)
  have pending := Json.standsFor_write (Sample.confirmed 1)
  rw [Booking.ofText?_of_standsFor once, Booking.ofText?_of_standsFor twice,
    Booking.ofText?_of_standsFor confirmed, Booking.ofText?_of_standsFor pending]
  exact ⟨⟨Or.inl ⟨by decide, rfl⟩, rfl, rfl⟩, Or.inr ⟨rfl, rfl⟩, rfl, rfl⟩

end TableBooking
