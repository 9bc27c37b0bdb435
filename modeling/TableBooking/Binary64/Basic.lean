import TableBooking.Json.Basic

/-!
# Double-precision numbers

The magnitude of a finite double is `mantissa * 2 ^ exponent`. All arithmetic is
exact on natural numbers and rounds once, to the nearest double, a tie to the even
mantissa.
-/

namespace TableBooking

/-- The magnitude of a finite double-precision number. -/
structure Binary64 where
  mantissa : Nat
  exponent : Int
  deriving DecidableEq, Repr

namespace Binary64

def minExponent : Int := -1074

def maxExponent : Int := 971

/-- Every mantissa is below this one. -/
def mantissaBound : Nat := 9_007_199_254_740_992

def zero : Binary64 := ⟨0, minExponent⟩

/-! ## Rounding -/

/-- The natural number nearest to a quotient, a tie going to the even one. -/
def roundQuotient (dividend divisor : Nat) : Nat :=
  let quotient := dividend / divisor
  let rest := dividend % divisor
  if 2 * rest < divisor then quotient
  else if divisor < 2 * rest then quotient + 1
  else if quotient % 2 = 0 then quotient
  else quotient + 1

/-- The power of two that is not above a quotient of positive numbers while its
double is. -/
def binaryOrder (dividend divisor : Nat) : Int :=
  let guess : Int := dividend.log2 - divisor.log2
  if divisor * Nat.pow 2 guess.toNat ≤ dividend * Nat.pow 2 (-guess).toNat then guess
  else guess - 1

/-- The double nearest to a quotient, unless that is too large for a double. -/
def round? (dividend divisor : Nat) : Option Binary64 :=
  if dividend = 0 then some zero
  else
    let exponent := max (binaryOrder dividend divisor - 52) minExponent
    let mantissa :=
      roundQuotient (dividend * Nat.pow 2 (-exponent).toNat)
        (divisor * Nat.pow 2 exponent.toNat)
    let result : Binary64 :=
      if mantissa < mantissaBound then ⟨mantissa, exponent⟩
      else ⟨mantissa / 2, exponent + 1⟩
    if result.exponent ≤ maxExponent then some result else none

/-! ## Arithmetic -/

/-- The dividend of the magnitude as a quotient of natural numbers. -/
def dividend (x : Binary64) : Nat :=
  x.mantissa * Nat.pow 2 x.exponent.toNat

/-- The divisor of the magnitude as a quotient of natural numbers. -/
def divisor (x : Binary64) : Nat :=
  Nat.pow 2 (-x.exponent).toNat

def mul? (x y : Binary64) : Option Binary64 :=
  round? (x.dividend * y.dividend) (x.divisor * y.divisor)

/-- The rounded quotient, unless it is too large. -/
def div? (x y : Binary64) : Option Binary64 :=
  round? (x.dividend * y.divisor) (x.divisor * y.dividend)

/-- The double nearest to a power of ten. -/
def powerOfTen? (power : Nat) : Option Binary64 :=
  round? (Nat.pow 10 power) 1

/-! ## Numbers in decimal notation -/

def maxPowerOfTen : Nat := 308

/-- Divides by the greatest power of ten a number of times, as long as anything is
left of the double. -/
def divideRepeatedly? : Nat → Binary64 → Option Binary64
  | 0, x => some x
  | times + 1, x =>
    if x.mantissa = 0 then some x
    else
      match (powerOfTen? maxPowerOfTen).bind x.div? with
      | none => none
      | some smaller => divideRepeatedly? times smaller

/-- A double times a power of ten. A power that is no double is divided by in
several steps, each of which rounds. -/
def timesPowerOfTen? (x : Binary64) (power : Int) : Option Binary64 :=
  if x.mantissa = 0 then some x
  else if 0 ≤ power then
    if power.natAbs ≤ maxPowerOfTen then (powerOfTen? power.natAbs).bind x.mul? else none
  else do
    let times := (power.natAbs - 1) / maxPowerOfTen
    let smaller ← divideRepeatedly? times x
    let scale ← powerOfTen? (power.natAbs - times * maxPowerOfTen)
    smaller.div? scale

/-- A significand is collected while it fits 64 bits. -/
def significandBound : Nat := 18_446_744_073_709_551_616

theorem significandBound_pos : 0 < significandBound := by decide

/-- The leading digits of a whole part that fit a significand, and the number of
digits left out. -/
def leadingDigits (whole : Nat) : Nat × Nat :=
  if whole < significandBound then (whole, 0)
  else
    let (leading, omitted) := leadingDigits (whole / 10)
    (leading, omitted + 1)
termination_by whole
decreasing_by
  have positive := significandBound_pos
  omega

/-- Appends digits after the point to a significand as long as it fits, lowering
the power of ten that it is multiplied by. -/
def appendFraction (significand : Nat) (power : Int) : List (Fin 10) → Nat × Int
  | [] => (significand, power)
  | digit :: rest =>
    if significand * 10 + digit.val < significandBound then
      appendFraction (significand * 10 + digit.val) (power - 1) rest
    else (significand, power)

/-- The magnitude of a written number as a double, unless it is too large for
one. -/
def ofNumber? (n : Json.Number) : Option Binary64 := do
  let (leading, omitted) := leadingDigits n.whole
  let (significand, power) := appendFraction leading omitted n.fraction
  let base ← round? significand 1
  timesPowerOfTen? base (power + n.exponent.getD 0)

end Binary64

end TableBooking
