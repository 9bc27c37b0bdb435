import TableBooking.Binary64.Shortest

/-!
# Numbers as machines keep them

A machine keeps an integer of 64 bits, with or without a sign, as it is, and any
other number as the nearest double. The canonical form of a number is what it writes
for the number that it keeps; the integers between the doubles are lost.
-/

namespace TableBooking.Json

/-- The number that is written for a double: without an exponent, and with at least
one digit after the point. -/
def Number.ofBinary64 (negative : Bool) (x : Binary64) : Number :=
  let short := x.shortest
  let unit := Nat.pow 10 (-short.power).toNat
  let fraction := (Text.padded (-short.power).toNat (short.digits % unit)).map Text.digitValue
  { negative := negative
    whole := short.digits * Nat.pow 10 short.power.toNat / unit
    fraction := if short.power < 0 then fraction else [Text.digitValue '0']
    exponent := none }

/-- The canonical form of a number. A number beyond the doubles has none and stays
as it is. -/
def Number.canonical (n : Number) : Number :=
  let rounded := ((Binary64.ofNumber? n).map (ofBinary64 n.negative)).getD n
  match n.integer? with
  | some i => if IsWord i then n else rounded
  | none => rounded

mutual

/-- The value with all numbers in canonical form. -/
def canonical : Json → Json
  | .number n => .number n.canonical
  | .array elements => .array (canonicalElements elements)
  | .object members => .object (canonicalMembers members)
  | value => value

/-- The elements with all numbers in canonical form. -/
def canonicalElements : List Json → List Json
  | [] => []
  | value :: rest => canonical value :: canonicalElements rest

/-- The members with all numbers in canonical form. -/
def canonicalMembers : List (String × Json) → List (String × Json)
  | [] => []
  | (name, value) :: rest => (name, canonical value) :: canonicalMembers rest

end

end TableBooking.Json
