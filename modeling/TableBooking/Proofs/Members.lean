import TableBooking.Proofs.Fields
import TableBooking.Proofs.Log

/-!
# Which members a form is read from

A form is read from the object in a text by the names of its six fields. All other members
may be added, left out or moved without any effect, so nobody can write the owner or the
status of a booking by way of a form (`ofText?_of_members`).
-/

namespace TableBooking

open Json (required optional)

namespace Json

/-! ## The members of a text -/

/-- The members of the object in a text, each with the value that it stands for, if it
stands for one. -/
def members? (text : String) : Option (List (String × Option Json)) :=
  match layoutOf? text with
  | some (.named members) => some members
  | _ => none

theorem layoutOf?_of_members?
    {text : String} {members : List (String × Option Json)}
    (isObject : members? text = some members) :
    layoutOf? text = some (.named members) := by
  unfold members? at isObject
  split at isObject
  · rename_i held laidOut
    obtain rfl := Option.some.inj isObject
    exact laidOut
  · exact nomatch isObject

/-- The members of the text of an object stand for the values of the members. -/
theorem members?_of_standsFor
    {text : String} {members : List (String × Json)}
    (stands : StandsFor text (.object members)) :
    members? text = some (members.map fun entry => (entry.1, some entry.2)) := by
  rw [members?, layoutOf?_of_standsFor stands]
  rfl

/-! ## The members of one field -/

/-- What a record reads from the members of one name. -/
def member? {α : Type} (read : Option Json → Option α)
    (members : List (String × Option Json)) (name : String) : Option α :=
  ((slot? members name).bind held?).bind read

/-- Is there exactly one member of the name, with a value that can be decoded? -/
def Given {α : Type} (decode : Json → Option α) (members : List (String × Option Json))
    (name : String) : Prop :=
  ∃ value, named members name = [(name, some value)] ∧ (decode value).isSome = true

/-- Is there at most one member of the name, with `null` or a value that can be decoded? -/
def GivenOrNot {α : Type} (decode : Json → Option α) (members : List (String × Option Json))
    (name : String) : Prop :=
  named members name = [] ∨
    ∃ value, named members name = [(name, some value)] ∧
      (value = .null ∨ (decode value).isSome = true)

theorem member?_eq_of_perm
    {α : Type} (read : Option Json → Option α) {members others : List (String × Option Json)}
    {name : String}
    (permutation : (named members name).Perm (named others name)) :
    member? read members name = member? read others name := by
  rw [member?, member?, slot?_eq_of_perm permutation]

theorem bind_held?_eq_some_none_iff
    (members : List (String × Option Json)) (name : String) :
    (slot? members name).bind held? = some none ↔ named members name = [] := by
  rw [← slot?_eq_some_none_iff]
  rcases slot? members name with _ | _ | _ | value
  · simp
  · simp [held?]
  · simp [held?]
  · simp [held?]

theorem bind_held?_eq_some_some_iff
    (members : List (String × Option Json)) (name : String) (value : Json) :
    (slot? members name).bind held? = some (some value) ↔
      named members name = [(name, some value)] := by
  rw [← slot?_eq_some_some_iff]
  rcases slot? members name with _ | _ | _ | other
  · simp
  · simp [held?]
  · simp [held?]
  · simp [held?]

theorem exists_member?_iff
    {α : Type} (read : Option Json → Option α) (members : List (String × Option Json))
    (name : String) :
    (∃ value, member? read members name = some value) ↔
      (named members name = [] ∧ ∃ value, read none = some value) ∨
        ∃ written, named members name = [(name, some written)] ∧
          ∃ value, read (some written) = some value := by
  constructor
  · rintro ⟨value, isRead⟩
    obtain ⟨slot, held, decoded⟩ := Option.bind_eq_some_iff.1 isRead
    cases slot with
    | none =>
        have absent := (bind_held?_eq_some_none_iff members name).1 held
        exact Or.inl ⟨absent, value, decoded⟩
    | some written =>
        have single := (bind_held?_eq_some_some_iff members name written).1 held
        exact Or.inr ⟨written, single, value, decoded⟩
  · rintro (⟨absent, value, decoded⟩ | ⟨written, single, value, decoded⟩)
    · have held := (bind_held?_eq_some_none_iff members name).2 absent
      exact ⟨value, Option.bind_eq_some_iff.2 ⟨none, held, decoded⟩⟩
    · have held := (bind_held?_eq_some_some_iff members name written).2 single
      exact ⟨value, Option.bind_eq_some_iff.2 ⟨some written, held, decoded⟩⟩

theorem exists_member?_required_iff
    {α : Type} (decode : Json → Option α) (members : List (String × Option Json))
    (name : String) :
    (∃ value, member? (required decode) members name = some value) ↔
      Given decode members name := by
  rw [exists_member?_iff, Given]
  simp only [required, reduceCtorEq, exists_false, and_false, false_or,
    Option.isSome_iff_exists]

theorem exists_optional_some_iff
    {α : Type} (decode : Json → Option α) (written : Json) :
    (∃ held, optional decode (some written) = some held) ↔
      written = .null ∨ (decode written).isSome = true := by
  by_cases isNull : written = .null
  · subst isNull
    exact iff_of_true ⟨none, rfl⟩ (Or.inl rfl)
  · rw [optional, nullable]
    · cases decode written with
      | none => simp [isNull]
      | some value => simp
    · exact isNull

theorem exists_member?_optional_iff
    {α : Type} (decode : Json → Option α) (members : List (String × Option Json))
    (name : String) :
    (∃ held, member? (optional decode) members name = some held) ↔
      GivenOrNot decode members name := by
  have absent : ∃ held, optional decode none = some held := ⟨none, rfl⟩
  rw [exists_member?_iff, GivenOrNot]
  simp only [absent, and_true, exists_optional_some_iff]

/-- The members that have the name of a field. -/
def membersOf {α : Type} (names : List String) (members : List (String × α)) :
    List (String × α) :=
  members.filter fun entry => names.contains entry.1

theorem named_membersOf
    {α : Type} {names : List String} {name : String} (members : List (String × α))
    (isField : name ∈ names) :
    named (membersOf names members) name = named members name := by
  rw [named, membersOf, List.filter_filter, named]
  apply List.filter_congr
  intro entry _
  by_cases same : entry.1 = name
  · simp [same, isField]
  · simp [same]

theorem perm_named_of_perm_membersOf
    {α : Type} {names : List String} {name : String} {members others : List (String × α)}
    (permutation : (membersOf names members).Perm (membersOf names others))
    (isField : name ∈ names) :
    (named members name).Perm (named others name) := by
  rw [← named_membersOf members isField, ← named_membersOf others isField]
  exact permutation.filter _

theorem slots?_eq_of_perm
    {names : List String} {members others : List (String × Option Json)}
    (permutation : (membersOf names members).Perm (membersOf names others)) :
    slots? names members = slots? names others := by
  apply Option.ext
  intro slots
  rw [slots?, slots?, mapM_eq_some_iff, mapM_eq_some_iff]
  have same :
      (names.map fun name => (slot? members name).bind held?) =
        names.map fun name => (slot? others name).bind held? := by
    apply List.map_congr_left
    intro name isField
    rw [slot?_eq_of_perm (perm_named_of_perm_membersOf permutation isField)]
  rw [same]

end Json

namespace Form

open Json (Given GivenOrNot member? membersOf)

/-! ## Fields and members -/

/-- Each field is read from the members of its name alone. -/
theorem ofText?_eq_some_iff
    {text : String} {members : List (String × Option Json)}
    (isObject : Json.members? text = some members) (form : Form) :
    Form.ofText? text = some form ↔
      ∀ field : Field, member? field.read members field.name = some (form.get field) := by
  rw [ofText?, Json.layoutOf?_of_members? isObject]
  exact fieldwise.bind_slots?_eq_some_iff members form

/-- Do the members give each field a value? Only the table and the note may be absent or
`null`. -/
structure GivenBy (members : List (String × Option Json)) : Prop where
  restaurantId : Given Json.int64? members "restaurant_id"
  tableId : GivenOrNot Json.int64? members "table_id"
  guestCount : Given Json.int32? members "guest_count"
  bookingTime : Given DateTime.ofJson? members "booking_time"
  depositAmount : Given Decimal.ofJson? members "deposit_amount"
  note : GivenOrNot Json.string? members "note"

theorem forall_exists_member?_iff
    (members : List (String × Option Json)) :
    (∀ field : Field, ∃ value, member? field.read members field.name = some value) ↔
      GivenBy members := by
  constructor
  · intro isRead
    exact {
      restaurantId := (Json.exists_member?_required_iff ..).1 (isRead .restaurantId)
      tableId := (Json.exists_member?_optional_iff ..).1 (isRead .tableId)
      guestCount := (Json.exists_member?_required_iff ..).1 (isRead .guestCount)
      bookingTime := (Json.exists_member?_required_iff ..).1 (isRead .bookingTime)
      depositAmount := (Json.exists_member?_required_iff ..).1 (isRead .depositAmount)
      note := (Json.exists_member?_optional_iff ..).1 (isRead .note) }
  · intro given field
    cases field with
    | restaurantId => exact (Json.exists_member?_required_iff ..).2 given.restaurantId
    | tableId => exact (Json.exists_member?_optional_iff ..).2 given.tableId
    | guestCount => exact (Json.exists_member?_required_iff ..).2 given.guestCount
    | bookingTime => exact (Json.exists_member?_required_iff ..).2 given.bookingTime
    | depositAmount => exact (Json.exists_member?_required_iff ..).2 given.depositAmount
    | note => exact (Json.exists_member?_optional_iff ..).2 given.note

theorem isSome_ofText?_iff
    {text : String} {members : List (String × Option Json)}
    (isObject : Json.members? text = some members) :
    (Form.ofText? text).isSome = true ↔ GivenBy members := by
  rw [Option.isSome_iff_exists, ← forall_exists_member?_iff]
  simp only [ofText?_eq_some_iff isObject]
  exact exists_get_iff_of_lawful get_ofValues (P := fun field value =>
    member? field.read members field.name = some value)

/-- Objects with the same members for the fields, in whatever order, are read alike. -/
theorem ofText?_eq_of_perm
    {text other : String} {members others : List (String × Option Json)}
    (isObject : Json.members? text = some members)
    (otherIsObject : Json.members? other = some others)
    (permutation : (membersOf names members).Perm (membersOf names others)) :
    Form.ofText? text = Form.ofText? other := by
  rw [ofText?, ofText?, Json.layoutOf?_of_members? isObject,
    Json.layoutOf?_of_members? otherIsObject]
  exact congrArg (fun slots => slots.bind ofSlots?) (Json.slots?_eq_of_perm permutation)

end Form

/-! ## Requests with a text -/

namespace Workflow

/-- Prepares a booking from the text of a form, if it is one. -/
def createFrom (rules : Rules) (text : String) (customerId : Option Uuid) (now : DateTime) :
    Option (Outcome Booking) :=
  (Form.ofText? text).map fun form => prepareCreate rules (some form) customerId now

/-- Edits a booking by the text of a form, if it is one: what the edit comes to, and the
booking that it leaves. -/
def editFrom (rules : Rules) (booking : Booking) (text : String) (caller : Uuid)
    (now : DateTime) : Option (Outcome Unit × Booking) :=
  (Form.ofText? text).map fun form => (applyUpdate rules form caller now).run booking

theorem owner_of_createFrom
    {rules : Rules} {text : String} {customerId : Option Uuid} {now : DateTime}
    {outcome : Outcome Booking} {booking : Booking}
    (created : createFrom rules text customerId now = some outcome)
    (isPrepared : outcome.result = .ok booking) :
    customerId = some booking.customerId := by
  obtain ⟨form, _, rfl⟩ := Option.map_eq_some_iff.1 created
  obtain ⟨content, owner, _, isOwner, _, rfl⟩ :=
    (result_prepareCreate_eq_ok_iff ..).1 isPrepared
  exact isOwner

theorem owner_of_editFrom
    {rules : Rules} {booking left : Booking} {text : String} {caller : Uuid} {now : DateTime}
    {outcome : Outcome Unit}
    (edited : editFrom rules booking text caller now = some (outcome, left)) :
    left.customerId = booking.customerId := by
  obtain ⟨form, _, run⟩ := Option.map_eq_some_iff.1 edited
  have same := Request.customerId_after rules booking (.update form caller now)
  rw [Request.after, Request.revision, run] at same
  exact same

end Workflow

/-- A text with an object is a form if and only if its members give each field a value, and
it is read as any other object with the same members for the fields. So no other member
changes what becomes of a request with the text, and the owner is never read from it. -/
theorem Form.ofText?_of_members
    {text : String} {members : List (String × Option Json)}
    (isObject : Json.members? text = some members) :
    ((Form.ofText? text).isSome = true ↔ GivenBy members) ∧
    (∀ other others, Json.members? other = some others →
      (Json.membersOf names members).Perm (Json.membersOf names others) →
      Form.ofText? text = Form.ofText? other ∧
      (∀ rules customerId now,
        Workflow.createFrom rules text customerId now =
          Workflow.createFrom rules other customerId now) ∧
      ∀ rules booking caller now,
        Workflow.editFrom rules booking text caller now =
          Workflow.editFrom rules booking other caller now) ∧
    (∀ rules customerId now outcome booking,
      Workflow.createFrom rules text customerId now = some outcome →
      outcome.result = .ok booking →
      customerId = some booking.customerId) ∧
    ∀ rules booking caller now outcome left,
      Workflow.editFrom rules booking text caller now = some (outcome, left) →
      left.customerId = booking.customerId := by
  refine ⟨isSome_ofText?_iff isObject, ?_, ?_, ?_⟩
  · intro other others otherIsObject permutation
    have same : Form.ofText? text = Form.ofText? other :=
      ofText?_eq_of_perm isObject otherIsObject permutation
    refine ⟨same, ?_, ?_⟩
    · intro rules customerId now
      rw [Workflow.createFrom, same, ← Workflow.createFrom]
    · intro rules booking caller now
      rw [Workflow.editFrom, same, ← Workflow.editFrom]
  · intro rules customerId now outcome booking created isPrepared
    exact Workflow.owner_of_createFrom created isPrepared
  · intro rules booking caller now outcome left edited
    exact Workflow.owner_of_editFrom edited

/-! ## A body with more than a form -/

namespace Sample

/-- The members of a form, in reverse. An owner and a status are added to them. -/
def body : List (String × Json) :=
  ("customer_id", stranger.toJson) ::
    (Form.names.zip (form 4).values).reverse ++ [("status", .string "CONFIRMED")]

end Sample

theorem Form.ofText?_body :
    Json.members? (Json.object Sample.body).write =
        some (Sample.body.map fun entry => (entry.1, some entry.2)) ∧
      Form.ofText? (Json.object Sample.body).write = Form.ofText? (Sample.form 4).toText ∧
      ∀ rules now,
        Workflow.createFrom rules (Json.object Sample.body).write (some Sample.owner) now =
          Workflow.createFrom rules (Sample.form 4).toText (some Sample.owner) now := by
  have isObject := Json.members?_of_standsFor (Json.standsFor_write (.object Sample.body))
  have formIsObject :=
    Json.members?_of_standsFor (Json.standsFor_write (Sample.form 4).toJson)
  have reversed :
      Json.membersOf names (Sample.body.map fun entry => (entry.1, some entry.2)) =
        (Json.membersOf names
          ((names.zip (Sample.form 4).values).map fun entry =>
            (entry.1, some entry.2))).reverse :=
    rfl
  have permutation := List.reverse_perm <|
    Json.membersOf names
      ((names.zip (Sample.form 4).values).map fun entry => (entry.1, some entry.2))
  rw [← reversed] at permutation
  obtain ⟨sameForm, sameCreated, _⟩ :=
    (Form.ofText?_of_members isObject).2.1 _ _ formIsObject permutation
  exact ⟨isObject, sameForm, fun rules now => sameCreated rules (some Sample.owner) now⟩

end TableBooking
