import TableBooking.Proofs.Members

/-!
# The two layouts of a record

A record is read from an array of its values as from the object that gives them their names, and
not at all from an array with more or fewer values, whatever may be left out of an object
(`layouts_agree`). The values of an array are read one after another, those of an object by their
names, but each of them for the same field in the same way. Where a value of an array is missing,
there is either nothing to take its place, or something else is missing later.
-/

namespace TableBooking

namespace Json

/-- The elements of the array in a text, each with the value that it stands for, if it stands
for one. -/
def elements? (text : String) : Option (List (Option Json)) :=
  match layoutOf? text with
  | some (.inRow elements) => some elements
  | _ => none

theorem layoutOf?_of_elements?
    {text : String} {elements : List (Option Json)}
    (isArray : elements? text = some elements) :
    layoutOf? text = some (.inRow elements) := by
  unfold elements? at isArray
  split at isArray
  · rename_i held laidOut
    obtain rfl := Option.some.inj isArray
    exact laidOut
  · exact nomatch isArray

/-- The elements of the text of an array stand for the values of the elements. -/
theorem elements?_of_standsFor
    {text : String} {values : List Json}
    (stands : StandsFor text (.array values)) :
    elements? text = some (values.map some) := by
  rw [elements?, layoutOf?_of_standsFor stands]
  rfl

/-- Is a record read alike from the array of its values and from the object that binds its names
to them, and from no array of another length? -/
structure LayoutsAgree {α : Type} (names : List String) (ofText? : String → Option α)
    (ofJson? : Json → Option α) : Prop where
  text : ∀ text other values, elements? text = some values →
    members? other = some (names.zip values) → values.length = names.length →
      ofText? text = ofText? other
  text_of_length_ne : ∀ text values, elements? text = some values →
    values.length ≠ names.length → ofText? text = none
  value : ∀ values, values.length = names.length →
    ofJson? (.array values) = ofJson? (.object (names.zip values))
  value_of_length_ne : ∀ values, values.length ≠ names.length →
    ofJson? (.array values) = none

/-- A record that is read field by field is read alike from both layouts. -/
theorem Fieldwise.layoutsAgree
    {Field Record : Type} {Value : Field → Type} {fields : List Field} {name : Field → String}
    {read : (field : Field) → Option Json → Option (Value field)}
    {get : Record → (field : Field) → Value field}
    {ofSlots? : List (Option Json) → Option Record} {inRow : InRow Record}
    (fieldwise : Fieldwise fields name read get ofSlots? inRow) :
    LayoutsAgree (fields.map name)
      (fun text => (layoutOf? text).bind (Layout.record? (fields.map name) ofSlots? inRow))
      (fun value => value.layout?.bind (Layout.record? (fields.map name) ofSlots? inRow)) where
  text := by
    intro text other values isArray isObject complete
    rw [List.length_map] at complete
    rw [layoutOf?_of_elements? isArray, layoutOf?_of_members? isObject]
    exact (fieldwise.bind_slots?_zip complete).symm
  text_of_length_ne := by
    intro text values isArray incomplete
    rw [List.length_map] at incomplete
    rw [layoutOf?_of_elements? isArray]
    exact fieldwise.whole_eq_none incomplete
  value := by
    intro values complete
    have complete : (values.map some).length = fields.length := by
      rw [List.length_map, complete, List.length_map]
    rw [layout?_object_zip]
    exact (fieldwise.bind_slots?_zip complete).symm
  value_of_length_ne := by
    intro values incomplete
    have incomplete : (values.map some).length ≠ fields.length := by
      rwa [List.length_map, ← List.length_map name]
    exact fieldwise.whole_eq_none incomplete

end Json

/-- Forms are read alike from arrays of six values and from objects, and bookings from arrays of
fourteen. -/
theorem layouts_agree :
    (Form.names.length = 6 ∧ Json.LayoutsAgree Form.names Form.ofText? Form.ofJson?) ∧
      Booking.names.length = 14 ∧
        Json.LayoutsAgree Booking.names Booking.ofText? Booking.ofJson? :=
  ⟨⟨rfl, Form.fieldwise.layoutsAgree⟩, rfl, Booking.fieldwise.layoutsAgree⟩

/-- A form is read from its values in a row, but not if the note is left out of them, as it may
be left out of an object. -/
theorem layouts_agree_evening :
    Form.ofText? (Json.array (Sample.form 4).values).write =
        Form.ofText? (Sample.form 4).toText ∧
      Form.ofText? (Json.array ((Sample.form 4).values.take 5)).write = none := by
  have isArray :=
    Json.elements?_of_standsFor (Json.standsFor_write (.array (Sample.form 4).values))
  have isShort :=
    Json.elements?_of_standsFor (Json.standsFor_write (.array ((Sample.form 4).values.take 5)))
  have isObject := Json.members?_of_standsFor (Json.standsFor_write (Sample.form 4).toJson)
  exact ⟨layouts_agree.1.2.text _ _ _ isArray isObject rfl,
    layouts_agree.1.2.text_of_length_ne _ _ isShort (by decide)⟩

end TableBooking
