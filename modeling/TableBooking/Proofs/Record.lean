import TableBooking.Booking.Wire
import TableBooking.Json.Record.Document
import TableBooking.Json.RoundTrip

/-!
# Records by the names of their members

What a record takes from an object under a name depends on the members of that name only,
whatever their order (`slot?_eq_of_perm`). A record that was written has every value in the
slot of its name (`slots?_zip`), and a text is read as the value that it stands for
(`Form.ofText?_of_standsFor`, `Booking.ofText?_of_standsFor`).
-/

namespace TableBooking

namespace Json

/-! ## Members of one name -/

/-- The members of an object that have a given name. -/
def named {α : Type} (members : List (String × α)) (name : String) : List (String × α) :=
  members.filter fun entry => entry.1 == name

theorem name_of_mem_named
    {α : Type} {members : List (String × α)} {name : String} {entry : String × α}
    (member : entry ∈ named members name) :
    entry.1 = name :=
  beq_iff_eq.1 (List.mem_filter.1 member).2

theorem named_cons_self
    {α : Type} (members : List (String × α)) (name : String) (value : α) :
    named ((name, value) :: members) name = (name, value) :: named members name :=
  List.filter_cons_of_pos (beq_self_eq_true name)

theorem named_cons_of_ne
    {α : Type} (members : List (String × α)) {held wanted : String} (value : α)
    (different : held ≠ wanted) :
    named ((held, value) :: members) wanted = named members wanted :=
  List.filter_cons_of_neg fun same => different (beq_iff_eq.1 same)

theorem named_zip_of_notMem
    {α : Type} {names : List String} (values : List α) {name : String}
    (absent : name ∉ names) :
    named (names.zip values) name = [] := by
  rw [named, List.filter_eq_nil_iff]
  intro entry member same
  have held : entry.1 ∈ names := (List.of_mem_zip (a := entry.1) (b := entry.2) member).1
  rw [beq_iff_eq.1 same] at held
  exact absent held

/-! ## Slots -/

theorem slot?_eq
    {α : Type} (members : List (String × α)) (name : String) :
    slot? members name =
      match named members name with
      | [] => some none
      | [entry] => some (some entry.2)
      | _ => none :=
  rfl

theorem slot?_eq_some_none_iff
    {α : Type} (members : List (String × α)) (name : String) :
    slot? members name = some none ↔ named members name = [] := by
  rw [slot?_eq]
  rcases named members name with _ | ⟨entry, _ | ⟨other, rest⟩⟩
  · simp
  · simp
  · simp

theorem slot?_eq_some_some_iff
    {α : Type} (members : List (String × α)) (name : String) (value : α) :
    slot? members name = some (some value) ↔ named members name = [(name, value)] := by
  have names : ∀ entry ∈ named members name, entry.1 = name :=
    fun entry member => name_of_mem_named member
  rw [slot?_eq]
  rcases held : named members name with _ | ⟨entry, _ | ⟨other, rest⟩⟩
  · simp
  · rw [held] at names
    have entryName : entry.1 = name := names entry List.mem_cons_self
    simp [Prod.ext_iff, entryName]
  · simp

/-- The order of the members does not matter. -/
theorem slot?_eq_of_perm
    {α : Type} {members others : List (String × α)} {name : String}
    (permutation : (named members name).Perm (named others name)) :
    slot? members name = slot? others name := by
  rw [slot?_eq, slot?_eq]
  have length := permutation.length_eq
  rcases held : named members name with _ | ⟨entry, _ | ⟨second, rest⟩⟩
  · rw [held] at permutation
    rw [permutation.nil_eq.symm]
  · rw [held] at permutation
    rw [List.singleton_perm.1 permutation]
  · rcases otherHeld : named others name with _ | ⟨other, _ | ⟨third, more⟩⟩
    · rw [held, otherHeld] at length
      exact absurd length (Nat.succ_ne_zero _)
    · rw [held, otherHeld] at length
      exact absurd (Nat.succ.inj length) (Nat.succ_ne_zero _)
    · rfl

theorem slot?_cons_of_ne
    {α : Type} (members : List (String × α)) {held wanted : String} (value : α)
    (different : held ≠ wanted) :
    slot? ((held, value) :: members) wanted = slot? members wanted := by
  rw [slot?_eq, named_cons_of_ne members value different, ← slot?_eq]

/-! ## Slots of all names -/

theorem mapM_eq_some_iff
    {α β : Type} (read : α → Option β) (names : List α) (values : List β) :
    names.mapM read = some values ↔ names.map read = values.map some := by
  induction names generalizing values with
  | nil => cases values <;> simp
  | cons name names inductionHypothesis =>
      cases values with
      | nil => simp [List.mapM_cons, Option.bind_eq_some_iff]
      | cons value values =>
          simp [List.mapM_cons, Option.bind_eq_some_iff, inductionHypothesis]

/-- A value that is given a name is in the slot of that name. -/
theorem map_slot?_zip
    {α : Type} {names : List String} {values : List α}
    (distinct : names.Nodup) (complete : names.length = values.length) :
    names.map (slot? (names.zip values)) = values.map fun value => some (some value) := by
  induction names generalizing values with
  | nil =>
      obtain rfl : values = [] := List.eq_nil_of_length_eq_zero complete.symm
      rfl
  | cons name names inductionHypothesis =>
      cases values with
      | nil => exact absurd complete (Nat.succ_ne_zero _)
      | cons value values =>
          obtain ⟨absent, distinct⟩ := List.nodup_cons.1 distinct
          have first : slot? ((name, value) :: names.zip values) name = some (some value) := by
            rw [slot?_eq_some_some_iff, named_cons_self, named_zip_of_notMem values absent]
          have others :
              names.map (slot? ((name, value) :: names.zip values)) =
                names.map (slot? (names.zip values)) := by
            apply List.map_congr_left
            intro other member
            apply slot?_cons_of_ne
            rintro rfl
            exact absent member
          rw [List.zip_cons_cons, List.map_cons, first, others,
            inductionHypothesis distinct (Nat.succ.inj complete)]
          rfl

/-- Every value of a written record is in the slot of its name. -/
theorem slots?_zip
    {names : List String} {values : List Json}
    (distinct : names.Nodup) (complete : names.length = values.length) :
    slots? names (names.zip (values.map some)) = some (values.map some) := by
  have named : names.length = (values.map some).length := by
    rw [List.length_map, complete]
  have held := congrArg (List.map fun slot => slot.bind held?) (map_slot?_zip distinct named)
  rw [List.map_map, List.map_map] at held
  rw [slots?, mapM_eq_some_iff, List.map_map]
  rw [List.map_map] at held
  exact held

theorem layout?_object_zip
    (names : List String) (values : List Json) :
    (Json.object (names.zip values)).layout? = some (.named (names.zip (values.map some))) := by
  rw [layout?, List.zip_map_right]
  rfl

/-! ## Texts -/

/-- Does a text stand for a value? The value may be nested to any depth. -/
def StandsFor (text : String) (value : Json) : Prop :=
  (Document.ofText? text).bind Document.value? = some value

theorem standsFor_write
    (value : Json) :
    StandsFor value.write value := by
  rw [StandsFor, ofText?_write, Option.bind_some, Document.value?_document]

theorem layoutOf?_of_standsFor
    {text : String} {value : Json}
    (stands : StandsFor text value) :
    layoutOf? text = value.layout? := by
  obtain ⟨document, read, valueRead⟩ := Option.bind_eq_some_iff.1 stands
  rw [layoutOf?, read, Option.bind_some, Document.layout?_of_value? valueRead]

end Json

/-- A form is read from a text as from the value that the text stands for. -/
theorem Form.ofText?_of_standsFor
    {text : String} {value : Json}
    (stands : Json.StandsFor text value) :
    Form.ofText? text = Form.ofJson? value := by
  rw [ofText?, Json.layoutOf?_of_standsFor stands, ofJson?]

/-- A booking is read from a text as from the value that the text stands for. -/
theorem Booking.ofText?_of_standsFor
    {text : String} {value : Json}
    (stands : Json.StandsFor text value) :
    Booking.ofText? text = Booking.ofJson? value := by
  rw [ofText?, Json.layoutOf?_of_standsFor stands, ofJson?]

end TableBooking
