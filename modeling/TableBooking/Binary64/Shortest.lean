import TableBooking.Binary64.Basic
import TableBooking.Text.Digits

/-!
# The shortest decimal text of a double

Among the decimal numbers that round to a given double, those on the coarsest
power of ten have the fewest digits; of two such numbers the nearer one is taken,
and the larger one if both are equally near.

Distances are measured in quarters of the last binary place, so the ends of the
interval that rounds to the double are whole numbers of quarters.
-/

namespace TableBooking

/-- A decimal number `digits * 10 ^ power`. -/
structure ShortDecimal where
  digits : Nat
  power : Int
  deriving DecidableEq, Repr

namespace Binary64

/-- The lower end of the interval that rounds to the double, in quarters of the
last place. -/
def lowerQuarters (x : Binary64) : Nat :=
  if x.mantissa * 2 = mantissaBound ∧ minExponent < x.exponent then 4 * x.mantissa - 1
  else 4 * x.mantissa - 2

/-- The upper end of the interval that rounds to the double, in quarters of the
last place. -/
def upperQuarters (x : Binary64) : Nat :=
  4 * x.mantissa + 2

/-- The multiple of a power of ten that rounds to the double and is nearest to it,
if there is one. -/
def onGrid? (x : Binary64) (power : Int) : Option ShortDecimal :=
  let quarter := Nat.pow 2 (x.exponent - 2).toNat * Nat.pow 10 (-power).toNat
  let unit := Nat.pow 10 power.toNat * Nat.pow 2 (2 - x.exponent).toNat
  let low := x.lowerQuarters * quarter
  let exact := 4 * x.mantissa * quarter
  let high := x.upperQuarters * quarter
  let inside (digits : Nat) : Bool :=
    if x.mantissa % 2 = 0 then low ≤ digits * unit && digits * unit ≤ high
    else low < digits * unit && digits * unit < high
  let below := exact / unit
  let above := below + 1
  if inside below ∧ (¬ inside above ∨ exact - below * unit < above * unit - exact) then
    some ⟨below, power⟩
  else if inside above then some ⟨above, power⟩
  else none

/-- The powers of ten on which the shortest decimals of doubles lie, the greatest
first. -/
def gridPowers : List Int :=
  (List.range 633).map fun (i : Nat) => (308 : Int) - i

/-- The shortest decimal that rounds to the double. -/
def shortest (x : Binary64) : ShortDecimal :=
  (gridPowers.findSome? x.onGrid?).getD ⟨0, 0⟩

end Binary64

namespace ShortDecimal

/-- The digits before and after the point, without an exponent. -/
def places (x : ShortDecimal) : List Char × List Char :=
  let unit := Nat.pow 10 (-x.power).toNat
  let whole := Nat.toDigits 10 (x.digits * Nat.pow 10 x.power.toNat / unit)
  let fraction := if x.power < 0 then Text.padded (-x.power).toNat (x.digits % unit) else []
  (whole, fraction)

/-- The text without an exponent, and without a point if nothing follows it. -/
def text (x : ShortDecimal) : List Char :=
  match x.places with
  | (whole, []) => whole
  | (whole, fraction) => whole ++ '.' :: fraction

end ShortDecimal

end TableBooking
