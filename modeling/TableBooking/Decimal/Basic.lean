/-!
# Decimal amounts

An amount is a signed mantissa of at most 96 bits with at most 28 of its decimal
digits after the point. Amounts that differ only in trailing zeros, or only in the sign
of zero, are different values for the same number.
-/

namespace TableBooking

/-- Every mantissa is below this number, which has 97 bits. -/
def Decimal.mantissaBound : Nat := 79_228_162_514_264_337_593_543_950_336

/-- A decimal amount, `mantissa / 10 ^ scale` with a sign. -/
@[ext]
structure Decimal where
  negative : Bool
  mantissa : Nat
  scale : Nat
  mantissa_lt : mantissa < Decimal.mantissaBound
  scale_le : scale ≤ 28
  deriving DecidableEq

namespace Decimal

/-- The amount zero without digits after the point. -/
def zero : Decimal where
  negative := false
  mantissa := 0
  scale := 0
  mantissa_lt := by decide
  scale_le := by decide

instance : Inhabited Decimal := ⟨zero⟩

/-- The amount with the given parts, if it has the digits for them. -/
def ofSignedParts? (negative : Bool) (mantissa scale : Nat) : Option Decimal :=
  if fits : mantissa < mantissaBound ∧ scale ≤ 28 then
    some ⟨negative, mantissa, scale, fits.1, fits.2⟩
  else none

/-- The amount with the given parts, if it has the digits for them. The sign of
zero is dropped. -/
def ofParts? (negative : Bool) (mantissa scale : Nat) : Option Decimal :=
  ofSignedParts? (negative && mantissa != 0) mantissa scale

/-- The amount that is a whole number. -/
def ofInt? (i : Int) : Option Decimal :=
  ofParts? (decide (i < 0)) i.natAbs 0

/-! ## The number behind an amount -/

def signedMantissa (d : Decimal) : Int :=
  if d.negative then -(d.mantissa : Int) else d.mantissa

/-- The number that the amount stands for, in units of the 28th place. -/
def units (d : Decimal) : Int :=
  d.signedMantissa * Nat.pow 10 (28 - d.scale)

/-- Has the amount no sign if it is zero? -/
def ZeroUnsigned (d : Decimal) : Prop :=
  d.mantissa = 0 → d.negative = false

instance (d : Decimal) : Decidable d.ZeroUnsigned :=
  inferInstanceAs (Decidable (_ → _))

/-- Do two amounts stand for the same number? -/
def SameNumber (a b : Decimal) : Prop :=
  a.units = b.units

instance (a b : Decimal) : Decidable (SameNumber a b) :=
  inferInstanceAs (Decidable (a.units = b.units))

def isNegative (d : Decimal) : Bool :=
  d.negative && d.mantissa != 0

def isPositive (d : Decimal) : Bool :=
  !d.negative && d.mantissa != 0

end Decimal

end TableBooking
