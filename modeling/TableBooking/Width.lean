/-!
# Whole numbers of fixed width

Integers that fit 64 or 32 bits.
-/

namespace TableBooking

/-- The signed 64-bit number that is equal to an integer, if there is one. -/
def int64OfInt? (i : Int) : Option Int64 :=
  if -9_223_372_036_854_775_808 ≤ i ∧ i ≤ 9_223_372_036_854_775_807 then
    some (Int64.ofInt i)
  else none

/-- The signed 32-bit number that is equal to an integer, if there is one. -/
def int32OfInt? (i : Int) : Option Int32 :=
  if -2_147_483_648 ≤ i ∧ i ≤ 2_147_483_647 then some (Int32.ofInt i) else none

theorem int64OfInt?_toInt (n : Int64) : int64OfInt? n.toInt = some n := by
  have lower := n.le_toInt
  have upper := n.toInt_lt
  rw [int64OfInt?, if_pos (by omega), Int64.ofInt_toInt]

theorem int32OfInt?_toInt (n : Int32) : int32OfInt? n.toInt = some n := by
  have lower := n.le_toInt
  have upper := n.toInt_lt
  rw [int32OfInt?, if_pos (by omega), Int32.ofInt_toInt]

/-- A number of 64 bits is the integer that it was made of. -/
theorem toInt_of_int64OfInt?
    {i : Int} {n : Int64}
    (fits : int64OfInt? i = some n) :
    n.toInt = i := by
  unfold int64OfInt? at fits
  split at fits
  · rename_i bounds
    obtain rfl := Option.some.inj fits
    exact Int64.toInt_ofInt_of_le bounds.1 (Int.lt_add_one_of_le bounds.2)
  · exact nomatch fits

/-- A number of 32 bits is the integer that it was made of. -/
theorem toInt_of_int32OfInt?
    {i : Int} {n : Int32}
    (fits : int32OfInt? i = some n) :
    n.toInt = i := by
  unfold int32OfInt? at fits
  split at fits
  · rename_i bounds
    obtain rfl := Option.some.inj fits
    exact Int32.toInt_ofInt_of_le bounds.1 (Int.lt_add_one_of_le bounds.2)
  · exact nomatch fits

theorem map_toInt_int64OfInt?_eq_some_iff
    (i j : Int) :
    (int64OfInt? i).map Int64.toInt = some j ↔
      i = j ∧ -9_223_372_036_854_775_808 ≤ j ∧ j ≤ 9_223_372_036_854_775_807 := by
  rw [Option.map_eq_some_iff]
  constructor
  · rintro ⟨n, fits, rfl⟩
    exact ⟨(toInt_of_int64OfInt? fits).symm, n.le_toInt, Int.le_of_lt_add_one n.toInt_lt⟩
  · rintro ⟨rfl, lower, upper⟩
    refine ⟨Int64.ofInt i, if_pos ⟨lower, upper⟩, ?_⟩
    exact Int64.toInt_ofInt_of_le lower (Int.lt_add_one_of_le upper)

theorem map_toInt_int32OfInt?_eq_some_iff
    (i j : Int) :
    (int32OfInt? i).map Int32.toInt = some j ↔
      i = j ∧ -2_147_483_648 ≤ j ∧ j ≤ 2_147_483_647 := by
  rw [Option.map_eq_some_iff]
  constructor
  · rintro ⟨n, fits, rfl⟩
    exact ⟨(toInt_of_int32OfInt? fits).symm, n.le_toInt, Int.le_of_lt_add_one n.toInt_lt⟩
  · rintro ⟨rfl, lower, upper⟩
    refine ⟨Int32.ofInt i, if_pos ⟨lower, upper⟩, ?_⟩
    exact Int32.toInt_ofInt_of_le lower (Int.lt_add_one_of_le upper)

/-- The product of two signed 64-bit numbers, unless it overflows. -/
def int64Product? (a b : Int64) : Option Int64 :=
  if -9_223_372_036_854_775_808 ≤ a.toInt * b.toInt ∧
      a.toInt * b.toInt ≤ 9_223_372_036_854_775_807 then
    some (a * b)
  else none

theorem toInt_of_int64Product?
    {a b product : Int64}
    (fits : int64Product? a b = some product) :
    product.toInt = a.toInt * b.toInt := by
  unfold int64Product? at fits
  split at fits
  · rename_i bounds
    obtain rfl := Option.some.inj fits
    rw [Int64.toInt_mul]
    exact Int.bmod_eq_of_le bounds.1 (Int.lt_add_one_of_le bounds.2)
  · exact nomatch fits

/-- Does an integer fit 64 bits, with or without a sign? -/
def IsWord (i : Int) : Prop :=
  -9_223_372_036_854_775_808 ≤ i ∧ i ≤ 18_446_744_073_709_551_615

instance (i : Int) : Decidable (IsWord i) :=
  inferInstanceAs (Decidable (_ ∧ _))

end TableBooking
