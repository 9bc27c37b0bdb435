/-!
# Decimal digits

Whole numbers as decimal text. Writing uses `Nat.toDigits 10`; reading refuses
everything but digits after an optional sign, so blanks, separators and a lone
sign are no numbers.
-/

namespace TableBooking.Text

/-- The decimal digits of `n`, with zeros in front of them up to `width`
characters. -/
def padded (width n : Nat) : List Char :=
  (Nat.toDigits 10 n).leftpad width '0'

def ofNat (n : Nat) : String :=
  String.ofList (Nat.toDigits 10 n)

/-- The decimal digits of an integer, after a minus sign if it is negative. -/
def intDigits (i : Int) : List Char :=
  if i < 0 then '-' :: Nat.toDigits 10 i.natAbs else Nat.toDigits 10 i.natAbs

def ofInt (i : Int) : String :=
  String.ofList (intDigits i)

def digitValue (c : Char) : Fin 10 :=
  Fin.ofNat 10 (c.toNat - 48)

/-- Reads one or more decimal digits and nothing else. -/
def natural? (text : List Char) : Option Nat :=
  if text ≠ [] ∧ text.all Char.isDigit then some (Nat.ofDigitChars 10 text 0) else none

/-- Reads decimal digits after at most one plus sign, and nothing else. -/
def unsigned? : List Char → Option Nat
  | '+' :: rest => natural? rest
  | text => natural? text

/-- Reads decimal digits after at most one sign, and nothing else. -/
def integer? : List Char → Option Int
  | '-' :: rest => (natural? rest).map fun (n : Nat) => -(n : Int)
  | '+' :: rest => (natural? rest).map fun (n : Nat) => (n : Int)
  | text => (natural? text).map fun (n : Nat) => (n : Int)

/-! ## Reading what is written -/

theorem isDigit_of_mem_toDigits
    {n : Nat} {c : Char}
    (member : c ∈ Nat.toDigits 10 n) :
    c.isDigit = true :=
  Nat.isDigit_of_mem_toDigits (by decide) (by decide) member

theorem digitValue_digitChar :
    ∀ value : Fin 10, digitValue (Nat.digitChar value) = value := by
  decide

theorem digitValue_of_isDigit
    {c : Char}
    (digit : c.isDigit = true) :
    (digitValue c).val = c.toNat - 48 := by
  rw [Char.isDigit_iff_toNat] at digit
  have upper : c.toNat ≤ 57 := digit.2
  exact Nat.mod_eq_of_lt (by omega)

theorem natural?_toDigits
    (n : Nat) :
    natural? (Nat.toDigits 10 n) = some n := by
  have digitsOnly : (Nat.toDigits 10 n).all Char.isDigit = true :=
    List.all_eq_true.2 fun _ member => isDigit_of_mem_toDigits member
  simp [natural?, digitsOnly, Nat.ofDigitChars_toDigits]

/-- A number of several digits has no zero in front. -/
theorem toDigits_ne_zero_cons
    (n : Nat) (second : Char) (others : List Char) :
    Nat.toDigits 10 n ≠ '0' :: second :: others := by
  induction n using Nat.strongRecOn generalizing second others with
  | ind n inductionHypothesis =>
      intro equality
      rw [Nat.toDigits_eq_if (by decide)] at equality
      by_cases small : n < 10
      · rw [if_pos small] at equality
        injection equality with _ impossible
        exact nomatch impossible
      · rw [if_neg small] at equality
        cases leading : Nat.toDigits 10 (n / 10) with
        | nil => exact Nat.toDigits_ne_nil leading
        | cons head tail =>
            rw [leading] at equality
            injection equality with headEq _
            subst headEq
            cases tail with
            | nil =>
                have value := Nat.ofDigitChars_ten_toDigits (n := n / 10)
                rw [leading] at value
                have zero : n / 10 = 0 := value.symm.trans (by decide)
                omega
            | cons second others =>
                exact inductionHypothesis (n / 10) (by omega) second others leading

/-- A text that starts with a digit has no sign. -/
theorem integer?_of_isDigit
    {first : Char} {others : List Char}
    (digit : first.isDigit = true) :
    integer? (first :: others) = (natural? (first :: others)).map fun (n : Nat) => (n : Int) := by
  unfold integer?
  split
  · rename_i equality
    injection equality with firstEq
    subst firstEq
    exact absurd digit (by decide)
  · rename_i equality
    injection equality with firstEq
    subst firstEq
    exact absurd digit (by decide)
  · rfl

theorem integer?_intDigits
    (i : Int) :
    integer? (intDigits i) = some i := by
  by_cases negative : i < 0
  · have magnitude : -(i.natAbs : Int) = i := by omega
    rw [intDigits, if_pos negative, integer?, natural?_toDigits, Option.map_some, magnitude]
  · have magnitude : (i.natAbs : Int) = i := by omega
    rw [intDigits, if_neg negative]
    cases digits : Nat.toDigits 10 i.natAbs with
    | nil => exact absurd digits Nat.toDigits_ne_nil
    | cons first others =>
        have digit : first.isDigit = true := by
          apply isDigit_of_mem_toDigits (n := i.natAbs)
          rw [digits]
          exact List.mem_cons_self
        rw [integer?_of_isDigit digit, ← digits, natural?_toDigits, Option.map_some, magnitude]

/-! ## Padded digits -/

theorem padded_eq
    (width n : Nat) :
    padded width n =
      List.replicate (width - (Nat.toDigits 10 n).length) '0' ++ Nat.toDigits 10 n :=
  rfl

theorem isDigit_of_mem_padded
    {width n : Nat} {c : Char}
    (member : c ∈ padded width n) :
    c.isDigit = true := by
  rw [padded_eq, List.mem_append] at member
  rcases member with zeros | digits
  · rw [List.eq_of_mem_replicate zeros]
    decide
  · exact isDigit_of_mem_toDigits digits

theorem ofDigitChars_padded
    (width n : Nat) :
    Nat.ofDigitChars 10 (padded width n) 0 = n := by
  rw [padded_eq, Nat.ofDigitChars_append, Nat.ofDigitChars_replicate_zero, Nat.mul_zero,
    Nat.ofDigitChars_ten_toDigits]

theorem length_padded
    {width n : Nat}
    (fits : (Nat.toDigits 10 n).length ≤ width) :
    (padded width n).length = width := by
  rw [padded_eq, List.length_append, List.length_replicate]
  omega

theorem padded_ne_nil
    (width n : Nat) :
    padded width n ≠ [] := by
  rw [padded_eq]
  exact fun empty => Nat.toDigits_ne_nil (List.append_eq_nil_iff.1 empty).2

end TableBooking.Text
