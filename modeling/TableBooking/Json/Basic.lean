import TableBooking.Width

/-!
# JSON values

A number is kept as it was written, since a whole number written with a point,
an exponent or as `-0` is not an integer to a reader of integers. The members
of an object are kept in the order of the text, repeated names included.
-/

namespace TableBooking

/-- A number as it is written: a sign, the whole part, the digits after the
point (none when there is no point) and the exponent. -/
structure Json.Number where
  negative : Bool
  whole : Nat
  fraction : List (Fin 10)
  exponent : Option Int
  deriving DecidableEq, Repr

/-- A JSON value. -/
inductive Json where
  | null
  | bool (value : Bool)
  | number (value : Json.Number)
  | string (value : String)
  | array (elements : List Json)
  | object (members : List (String × Json))
  deriving Repr

namespace Json

/-! ## Integers -/

def Number.ofInt (i : Int) : Number where
  negative := decide (i < 0)
  whole := i.natAbs
  fraction := []
  exponent := none

/-- The integer that a number stands for if it is written as one: without point
and exponent, and not as `-0`. -/
def Number.integer? (n : Number) : Option Int :=
  if n.fraction = [] ∧ n.exponent = none then
    if n.negative then
      if n.whole = 0 then none else some (-(n.whole : Int))
    else some n.whole
  else none

theorem Number.integer?_ofInt (i : Int) : (Number.ofInt i).integer? = some i := by
  by_cases negative : i < 0
  · have nonzero : i.natAbs ≠ 0 := by omega
    have magnitude : -(i.natAbs : Int) = i := by omega
    simp only [Number.ofInt, Number.integer?, negative, nonzero, magnitude,
      decide_true, and_self, if_true, if_false]
  · have magnitude : (i.natAbs : Int) = i := by omega
    simp only [Number.ofInt, Number.integer?, negative, magnitude, decide_false,
      and_self, Bool.false_eq_true, if_true, if_false]

def ofInt (i : Int) : Json :=
  .number (.ofInt i)

def ofNat (n : Nat) : Json :=
  ofInt n

def integer? : Json → Option Int
  | .number n => n.integer?
  | _ => none

/-- The signed 64-bit integer that a value is, if it is one. -/
def int64? (value : Json) : Option Int64 :=
  value.integer?.bind int64OfInt?

/-- The signed 32-bit integer that a value is, if it is one. -/
def int32? (value : Json) : Option Int32 :=
  value.integer?.bind int32OfInt?

/-! ## Other scalars -/

def string? : Json → Option String
  | .string text => some text
  | _ => none

/-- The JSON form of an optional value: `null` for none. -/
def ofOption {α : Type} (form : α → Json) : Option α → Json
  | none => .null
  | some value => form value

end Json

end TableBooking
