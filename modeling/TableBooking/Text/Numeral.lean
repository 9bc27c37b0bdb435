import TableBooking.Text.Digits

/-!
# Numerals

The texts that stand for integers: digits, each of which counts by its place, after at most one
sign. A text is read as an integer if and only if it spells that integer
(`integer?_eq_some_iff`).
-/

namespace TableBooking.Text

/-- The number that digits stand for, each of them with the power of ten of its place. -/
def placeValue : List Char → Nat
  | [] => 0
  | digit :: rest => (digit.toNat - 48) * Nat.pow 10 rest.length + placeValue rest

/-- Is the text one or more of the digits `0` to `9`? -/
def IsDigits (text : List Char) : Prop :=
  text ≠ [] ∧ ∀ c ∈ text, c.isDigit = true

/-- Does a text spell an integer? -/
inductive Spells : List Char → Int → Prop
  | unsigned {digits : List Char} :
      IsDigits digits → Spells digits (placeValue digits)
  | plus {digits : List Char} :
      IsDigits digits → Spells ('+' :: digits) (placeValue digits)
  | minus {digits : List Char} :
      IsDigits digits → Spells ('-' :: digits) (-(placeValue digits : Int))

/-- Reading from the left multiplies what was read before by the power of ten of its place. -/
theorem ofDigitChars_eq_placeValue
    (digits : List Char) (initial : Nat) :
    Nat.ofDigitChars 10 digits initial =
      initial * Nat.pow 10 digits.length + placeValue digits := by
  induction digits generalizing initial with
  | nil => exact (Nat.mul_one initial).symm
  | cons digit rest inductionHypothesis =>
      have power : Nat.pow 10 (digit :: rest).length = Nat.pow 10 rest.length * 10 := rfl
      rw [Nat.ofDigitChars_cons, inductionHypothesis, power, placeValue, Nat.add_mul,
        Nat.mul_comm 10 initial, Nat.mul_assoc, Nat.mul_comm 10, Nat.add_assoc]
      rfl

theorem natural?_eq_some_iff
    (text : List Char) (n : Nat) :
    natural? text = some n ↔ IsDigits text ∧ placeValue text = n := by
  have value : Nat.ofDigitChars 10 text 0 = placeValue text := by
    rw [ofDigitChars_eq_placeValue, Nat.zero_mul, Nat.zero_add]
  rw [natural?, value, Option.ite_none_right_eq_some, Option.some.injEq, List.all_eq_true,
    IsDigits]

theorem integer?_eq_some_iff
    (text : List Char) (i : Int) :
    integer? text = some i ↔ Spells text i := by
  constructor
  · intro isRead
    unfold integer? at isRead
    split at isRead
    · obtain ⟨_, digits, rfl⟩ := Option.map_eq_some_iff.1 isRead
      obtain ⟨isDigits, rfl⟩ := (natural?_eq_some_iff ..).1 digits
      exact .minus isDigits
    · obtain ⟨_, digits, rfl⟩ := Option.map_eq_some_iff.1 isRead
      obtain ⟨isDigits, rfl⟩ := (natural?_eq_some_iff ..).1 digits
      exact .plus isDigits
    · obtain ⟨_, digits, rfl⟩ := Option.map_eq_some_iff.1 isRead
      obtain ⟨isDigits, rfl⟩ := (natural?_eq_some_iff ..).1 digits
      exact .unsigned isDigits
  · intro spells
    cases spells with
    | unsigned isDigits =>
        cases text with
        | nil => exact absurd rfl isDigits.1
        | cons first others =>
            rw [integer?_of_isDigit (isDigits.2 first List.mem_cons_self),
              (natural?_eq_some_iff ..).2 ⟨isDigits, rfl⟩, Option.map_some]
    | plus isDigits =>
        rw [integer?, (natural?_eq_some_iff ..).2 ⟨isDigits, rfl⟩, Option.map_some]
    | minus isDigits =>
        rw [integer?, (natural?_eq_some_iff ..).2 ⟨isDigits, rfl⟩, Option.map_some]

end TableBooking.Text
