import TableBooking.Json.Reader

/-!
# Records

A record is a list of named values. It is given as an object, whose members may stand in any
order among members of other names, or as an array of all the values in the order of the
names. From an object each value is read by its name, from an array one value after another.

In a document, a member of another name is passed over: its value is not read, so it
need not stand for one and may be nested to any depth.
-/

namespace TableBooking.Json

/-! ## Layouts -/

/-- What a record is read from: members or elements, each with its value. The value is missing
where a part of a document stands for none. -/
inductive Layout where
  | named (members : List (String × Option Json))
  | inRow (elements : List (Option Json))

def layout? : Json → Option Layout
  | .object members => some (.named (members.map fun entry => (entry.1, some entry.2)))
  | .array elements => some (.inRow (elements.map some))
  | _ => none

namespace Document

/-- The members of an object with their names. -/
def named? (members : List (List Char × Document)) : Option (List (String × Document)) :=
  members.mapM fun entry => (Quoted.text? entry.1).map fun name => (name, entry.2)

def layout? : Document → Option Layout
  | .object members =>
    (named? members).map fun members =>
      .named (members.map fun entry => (entry.1, entry.2.value?))
  | .array elements => some (.inRow (elements.map value?))
  | _ => none

end Document

/-- The layout of the record in a text. -/
def layoutOf? (text : String) : Option Layout :=
  (Document.ofText? text).bind Document.layout?

/-! ## Values by their names -/

/-- The slot of a name: what its member holds, or nothing if no member has the name.
There is no slot if two members have it. -/
def slot? {α : Type} (members : List (String × α)) (name : String) : Option (Option α) :=
  match members.filter fun entry => entry.1 == name with
  | [] => some none
  | [entry] => some (some entry.2)
  | _ => none

/-- What is in a slot, unless it stands for no value. -/
def held? : Option (Option Json) → Option (Option Json)
  | none => some none
  | some value => value.map some

/-- The slots of a record in the order of its names. -/
def slots? (names : List String) (members : List (String × Option Json)) :
    Option (List (Option Json)) :=
  names.mapM fun name => (slot? members name).bind held?

/-- Decodes a value that may be `null`. -/
def nullable {α : Type} (decode : Json → Option α) : Json → Option (Option α)
  | .null => some none
  | value => (decode value).map some

def required {α : Type} (decode : Json → Option α) : Option Json → Option α
  | none => none
  | some value => decode value

def optional {α : Type} (decode : Json → Option α) : Option Json → Option (Option α)
  | none => some none
  | some value => nullable decode value

/-- A value that has a default when it is absent, but may not be `null`. -/
def withDefault {α : Type} (default : α) (decode : Json → Option α) :
    Option Json → Option α
  | none => some default
  | some value => decode value

/-! ## Values in a row -/

/-- Reads the elements of an array from the first one on. -/
abbrev InRow := StateT (List (Option Json)) Option

namespace InRow

variable {α : Type}

/-- The next element. There has to be one, even for a value that may be absent elsewhere. -/
def next (decode : Json → Option α) : InRow α
  | [] => none
  | held :: rest => (held.bind decode).map fun value => (value, rest)

/-- The next element, or a default if no element is left. -/
def nextOr (default : α) (decode : Json → Option α) : InRow α
  | [] => some (default, [])
  | held :: rest => next decode (held :: rest)

/-- What is read from all elements. None may be left over. -/
def whole (read : InRow α) (elements : List (Option Json)) : Option α :=
  match read elements with
  | some (value, []) => some value
  | _ => none

end InRow

/-- Reads a record from its members by their names, or from its elements in their order. -/
def Layout.record? {α : Type} (names : List String) (ofSlots? : List (Option Json) → Option α)
    (inRow : InRow α) : Layout → Option α
  | .named members => (slots? names members).bind ofSlots?
  | .inRow elements => inRow.whole elements

/-! ## One value for each name -/

mutual

/-- The value with only the last of the members of one name, in all objects. -/
def lastOfEach : Json → Json
  | .array elements => .array (lastOfEachElements elements)
  | .object members => .object (lastOfEachMembers members)
  | value => value

/-- The elements with only the last of the members of one name, in all objects. -/
def lastOfEachElements : List Json → List Json
  | [] => []
  | value :: rest => lastOfEach value :: lastOfEachElements rest

/-- The members without those that a later member of the same name replaces. -/
def lastOfEachMembers : List (String × Json) → List (String × Json)
  | [] => []
  | (name, value) :: rest =>
    let later := lastOfEachMembers rest
    if later.any fun entry => entry.1 == name then later else (name, lastOfEach value) :: later

end

end TableBooking.Json
