import TableBooking.Json.Record

/-!
# Records in documents

A document that stands for a value has the layout of that value, so a record is read from
it as it is read from the value (`layout?_of_value?`). A document may have a layout also if
a part of it stands for no value.
-/

namespace TableBooking.Json.Document

theorem map_named?_of_memberValues?
    {members : List (List Char × Document)} {values : List (String × Json)}
    (stand : memberValues? members = some values) :
    ((named? members).map fun members => members.map fun entry => (entry.1, entry.2.value?)) =
      some (values.map fun entry => (entry.1, some entry.2)) := by
  induction members generalizing values with
  | nil =>
      obtain rfl : [] = values := Option.some.inj stand
      rfl
  | cons member members inductionHypothesis =>
      obtain ⟨quoted, part⟩ := member
      simp only [memberValues?, Option.bind_eq_bind, Option.bind_eq_some_iff, Option.pure_def,
        Option.some.injEq] at stand
      obtain ⟨name, nameRead, value, valueRead, rest, restRead, rfl⟩ := stand
      obtain ⟨parts, named, sameMembers⟩ :=
        Option.map_eq_some_iff.1 (inductionHypothesis restRead)
      rw [named?] at named ⊢
      simp only [List.mapM_cons, nameRead, named, Option.map_some, Option.bind_eq_bind,
        Option.bind_some, Option.pure_def, List.map_cons, valueRead, sameMembers]

theorem map_value?_of_elementValues?
    {elements : List Document} {values : List Json}
    (stand : elementValues? elements = some values) :
    elements.map value? = values.map some := by
  induction elements generalizing values with
  | nil =>
      obtain rfl : [] = values := Option.some.inj stand
      rfl
  | cons part elements inductionHypothesis =>
      simp only [elementValues?, Option.bind_eq_bind, Option.bind_eq_some_iff,
        Option.pure_def, Option.some.injEq] at stand
      obtain ⟨value, valueRead, rest, restRead, rfl⟩ := stand
      rw [List.map_cons, List.map_cons, valueRead, inductionHypothesis restRead]

/-- The layout of a document that stands for a value is that of the value. -/
theorem layout?_of_value?
    {document : Document} {value : Json}
    (stands : document.value? = some value) :
    document.layout? = value.layout? := by
  cases document with
  | null =>
      obtain rfl : Json.null = value := Option.some.inj stands
      rfl
  | bool b =>
      obtain rfl : Json.bool b = value := Option.some.inj stands
      rfl
  | number n =>
      obtain rfl : Json.number n = value := Option.some.inj stands
      rfl
  | string quoted =>
      obtain ⟨text, _, rfl⟩ := Option.map_eq_some_iff.1 stands
      rfl
  | array elements =>
      rw [value?] at stands
      obtain ⟨values, read, rfl⟩ := Option.map_eq_some_iff.1 stands
      rw [layout?, Json.layout?, map_value?_of_elementValues? read]
  | object members =>
      rw [value?] at stands
      obtain ⟨values, read, rfl⟩ := Option.map_eq_some_iff.1 stands
      obtain ⟨parts, named, sameMembers⟩ :=
        Option.map_eq_some_iff.1 (map_named?_of_memberValues? read)
      rw [layout?, Json.layout?, named, Option.map_some, sameMembers]

end TableBooking.Json.Document
