import TableBooking.Json.Record

/-!
# Values read in a row

What begins with the next element of a row is told by its first element and by what is read from
the others (`whole_bind_next_cons`). What reads a number of elements that have to be there takes
as many from the row (`Takes`). A default in between changes nothing, since no element is left
for what comes after it (`takes_bind_nextOr`).
-/

namespace TableBooking.Json.InRow

variable {α β : Type}

/-! ## One element after another -/

theorem bind_next_cons
    (decode : Json → Option α) (later : α → InRow β) (held : Option Json)
    (elements : List (Option Json)) :
    (next decode >>= later) (held :: elements) =
      (held.bind decode).bind fun value => later value elements := by
  change (next decode (held :: elements)).bind (fun pair => later pair.1 pair.2) = _
  rw [next, Option.bind_map]
  rfl

theorem bind_nextOr_cons
    (default : α) (decode : Json → Option α) (later : α → InRow β) (held : Option Json)
    (elements : List (Option Json)) :
    (nextOr default decode >>= later) (held :: elements) =
      (held.bind decode).bind fun value => later value elements :=
  bind_next_cons decode later held elements

/-- A row is read as its first element and the others are. -/
theorem whole_bind_next_cons
    {decode : Json → Option α} {later : α → InRow β} {held : Option Json}
    {elements : List (Option Json)} {others : α → Option β}
    (rest : ∀ value, (later value).whole elements = others value) :
    (next decode >>= later).whole (held :: elements) = held.bind decode >>= others := by
  rw [whole, bind_next_cons]
  cases held.bind decode with
  | none => rfl
  | some value => exact rest value

theorem whole_bind_nextOr_cons
    {default : α} {decode : Json → Option α} {later : α → InRow β} {held : Option Json}
    {elements : List (Option Json)} {others : α → Option β}
    (rest : ∀ value, (later value).whole elements = others value) :
    (nextOr default decode >>= later).whole (held :: elements) = held.bind decode >>= others :=
  whole_bind_next_cons rest

theorem whole_pure_nil
    (value : α) :
    (pure value : InRow α).whole [] = some value :=
  rfl

theorem whole_eq_some_iff
    (read : InRow α) (elements : List (Option Json)) (value : α) :
    read.whole elements = some value ↔ read elements = some (value, []) := by
  rw [whole]
  rcases read elements with _ | ⟨other, _ | ⟨first, rest⟩⟩
  · simp
  · simp
  · simp

/-! ## How many elements are taken -/

/-- Does a reading that succeeds take a given number of elements? -/
def Takes (count : Nat) (read : InRow α) : Prop :=
  ∀ elements value rest, read elements = some (value, rest) →
    elements.length = rest.length + count

theorem takes_pure
    (value : α) :
    Takes 0 (pure value) := by
  intro elements result rest isRead
  have same : (value, elements) = (result, rest) := Option.some.inj isRead
  rw [(Prod.mk.inj same).2, Nat.add_zero]

theorem takes_bind_next
    {count : Nat} (decode : Json → Option α) {later : α → InRow β}
    (takes : ∀ value, Takes count (later value)) :
    Takes (count + 1) (next decode >>= later) := by
  intro elements result rest isRead
  cases elements with
  | nil => exact nomatch isRead
  | cons held elements =>
      rw [bind_next_cons] at isRead
      obtain ⟨value, _, restRead⟩ := Option.bind_eq_some_iff.1 isRead
      rw [List.length_cons, takes value elements result rest restRead, Nat.add_assoc]

/-- A default is no use if an element has to come after it. -/
theorem takes_bind_nextOr
    {count : Nat} (default : α) (decode : Json → Option α) {later : α → InRow β}
    (takes : ∀ value, Takes (count + 1) (later value)) :
    Takes (count + 2) (nextOr default decode >>= later) := by
  intro elements result rest isRead
  cases elements with
  | nil =>
      have restRead : later default [] = some (result, rest) := isRead
      exact absurd (takes default [] result rest restRead) (Nat.succ_ne_zero _).symm
  | cons held elements =>
      rw [bind_nextOr_cons] at isRead
      obtain ⟨value, _, restRead⟩ := Option.bind_eq_some_iff.1 isRead
      rw [List.length_cons, takes value elements result rest restRead, Nat.add_assoc]

theorem length_of_whole
    {count : Nat} {read : InRow α} {elements : List (Option Json)} {value : α}
    (takes : Takes count read)
    (isRead : read.whole elements = some value) :
    elements.length = count := by
  rw [takes elements value [] ((whole_eq_some_iff ..).1 isRead), List.length_nil, Nat.zero_add]

end TableBooking.Json.InRow
