/-!
# Letter case

Case is folded for the letters `A` to `Z` alone: a letter outside ASCII equals
only itself.
-/

namespace TableBooking.Text

/-- The text with the letters `A` to `Z` in lower case. -/
def lower (text : List Char) : List Char :=
  text.map Char.toLower

/-- The text with the letters `a` to `z` in upper case. -/
def upper (text : List Char) : List Char :=
  text.map Char.toUpper

/-- Are the texts equal up to the case of ASCII letters? -/
def sameLetters (left right : List Char) : Bool :=
  lower left == lower right

theorem sameLetters_iff
    (left right : List Char) :
    sameLetters left right = true ↔ lower left = lower right := by
  simp [sameLetters]

theorem toNat_toLower
    (c : Char) :
    c.toLower.toNat =
      if 65 ≤ c.toNat ∧ c.toNat ≤ 90 then c.toNat + 32 else c.toNat := by
  have shift : ('a'.val - 'A'.val).toNat = 32 := rfl
  unfold Char.toLower
  split
  · rename_i isUpper
    have least : 65 ≤ c.val.toNat := UInt32.le_iff_toNat_le.1 isUpper.1
    have greatest : c.val.toNat ≤ 90 := UInt32.le_iff_toNat_le.1 isUpper.2
    rw [if_pos ⟨least, greatest⟩]
    change (c.val + ('a'.val - 'A'.val)).toNat = c.val.toNat + 32
    rw [UInt32.toNat_add, shift]
    omega
  · rename_i notUpper
    rw [if_neg]
    rintro ⟨least, greatest⟩
    exact notUpper ⟨UInt32.le_iff_toNat_le.2 least, UInt32.le_iff_toNat_le.2 greatest⟩

theorem toNat_le_toNat_toLower
    (c : Char) :
    c.toNat ≤ c.toLower.toNat := by
  rw [toNat_toLower]
  split <;> omega

/-- No letter outside ASCII is taken for one of ASCII. -/
theorem toNat_lt_of_lower
    {text : List Char} {limit : Nat}
    (small : ∀ c ∈ lower text, c.toNat < limit) :
    ∀ c ∈ text, c.toNat < limit := by
  intro c member
  have lowered : c.toLower ∈ lower text := List.mem_map_of_mem member
  exact Nat.lt_of_le_of_lt (toNat_le_toNat_toLower c) (small c.toLower lowered)

/-! ## The same letter -/

/-- Is it a letter `A` to `Z`, and the other one the same letter in lower case? -/
def IsCapitalOf (capital small : Char) : Prop :=
  'A' ≤ capital ∧ capital ≤ 'Z' ∧ small.toNat = capital.toNat + 32

/-- Are the characters equal, or the same ASCII letter in both cases? -/
def SameLetter (c d : Char) : Prop :=
  c = d ∨ IsCapitalOf c d ∨ IsCapitalOf d c

theorem isCapitalOf_iff
    (capital small : Char) :
    IsCapitalOf capital small ↔
      65 ≤ capital.toNat ∧ capital.toNat ≤ 90 ∧ small.toNat = capital.toNat + 32 := by
  rw [IsCapitalOf, Char.le_def, Char.le_def, UInt32.le_iff_toNat_le, UInt32.le_iff_toNat_le]
  exact Iff.rfl

theorem toLower_eq_toLower_iff
    (c d : Char) :
    c.toLower = d.toLower ↔ SameLetter c d := by
  rw [SameLetter, isCapitalOf_iff, isCapitalOf_iff, ← Char.toNat_inj, ← Char.toNat_inj,
    toNat_toLower, toNat_toLower]
  split <;> split <;> omega

end TableBooking.Text
