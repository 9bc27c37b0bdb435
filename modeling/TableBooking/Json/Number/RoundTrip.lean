import TableBooking.Json.Number

/-!
# Reading the text of a number

The text of a number is read as that number (`ofText?_text`), digit by digit: the
whole part ends at the point or at the mark of the exponent, the fraction at that mark.
-/

namespace TableBooking.Json.Number

open TableBooking.Text

theorem isDigit_fractionChar :
    ∀ digit : Fin 10, (fractionChar digit).isDigit = true := by
  decide

/-! ## Where digits end -/

/-- Does a text not go on with a digit? -/
def EndsDigits (rest : List Char) : Prop :=
  ∀ c ∈ rest.head?, c.isDigit = false

theorem takeWhile_isDigit_append
    {digits rest : List Char}
    (allDigits : ∀ c ∈ digits, c.isDigit = true)
    (ends : EndsDigits rest) :
    (digits ++ rest).takeWhile Char.isDigit = digits := by
  rw [List.takeWhile_append_of_pos allDigits]
  cases rest with
  | nil => rw [List.takeWhile_nil, List.append_nil]
  | cons c rest =>
      have other : ¬ c.isDigit = true := by
        rw [ends c rfl]
        exact Bool.false_ne_true
      rw [List.takeWhile_cons_of_neg other, List.append_nil]

theorem dropWhile_isDigit_append
    {digits rest : List Char}
    (allDigits : ∀ c ∈ digits, c.isDigit = true)
    (ends : EndsDigits rest) :
    (digits ++ rest).dropWhile Char.isDigit = rest := by
  rw [List.dropWhile_append_of_pos allDigits]
  cases rest with
  | nil => rw [List.dropWhile_nil]
  | cons c rest =>
      have other : ¬ c.isDigit = true := by
        rw [ends c rfl]
        exact Bool.false_ne_true
      rw [List.dropWhile_cons_of_neg other]

theorem endsDigits_exponentText
    (exponent : Option Int) :
    EndsDigits (exponentText exponent) := by
  intro c member
  cases exponent with
  | none => exact nomatch member
  | some exponent =>
      obtain rfl : 'e' = c := Option.some.inj member
      decide

theorem endsDigits_fractionText
    (digits : List (Fin 10)) (exponent : Option Int) :
    EndsDigits (fractionText digits ++ exponentText exponent) := by
  cases digits with
  | nil => exact endsDigits_exponentText exponent
  | cons digit digits =>
      intro c member
      obtain rfl : '.' = c := Option.some.inj member
      decide

/-! ## The parts of a number -/

theorem readSign_text
    (negative : Bool) (whole : Nat) (rest : List Char) :
    readSign ((if negative then ['-'] else []) ++ (Nat.toDigits 10 whole ++ rest)) =
      (negative, Nat.toDigits 10 whole ++ rest) := by
  cases negative with
  | true => rfl
  | false =>
      cases digits : Nat.toDigits 10 whole with
      | nil => exact absurd digits Nat.toDigits_ne_nil
      | cons first others =>
          have digit : first.isDigit = true := by
            apply isDigit_of_mem_toDigits (n := whole)
            rw [digits]
            exact List.mem_cons_self
          have noSign : first ≠ '-' := by
            rintro rfl
            exact absurd digit (by decide)
          simp only [Bool.false_eq_true, if_false, List.nil_append, List.cons_append]
          unfold readSign
          split
          · rename_i equality
            injection equality with firstEq
            exact absurd firstEq noSign
          · rfl

theorem readWhole?_text
    (whole : Nat) {rest : List Char}
    (ends : EndsDigits rest) :
    readWhole? (Nat.toDigits 10 whole ++ rest) = some (whole, rest) := by
  have allDigits : ∀ c ∈ Nat.toDigits 10 whole, c.isDigit = true :=
    fun _ member => isDigit_of_mem_toDigits member
  simp only [readWhole?, takeWhile_isDigit_append allDigits ends,
    dropWhile_isDigit_append allDigits ends]
  split
  · rename_i equality
    exact absurd equality (toDigits_ne_zero_cons _ _ _)
  · rw [natural?_toDigits, Option.map_some]

theorem readFraction?_text
    (digits : List (Fin 10)) (exponent : Option Int) :
    readFraction? (fractionText digits ++ exponentText exponent) =
      some (digits, exponentText exponent) := by
  cases digits with
  | nil =>
      cases exponent with
      | none => rfl
      | some exponent => rfl
  | cons digit digits =>
      have allDigits :
          ∀ c ∈ (digit :: digits).map fractionChar, c.isDigit = true := by
        intro c member
        obtain ⟨value, _, rfl⟩ := List.mem_map.1 member
        exact isDigit_fractionChar value
      have values : ((digit :: digits).map fractionChar).map digitValue = digit :: digits := by
        rw [List.map_map, show digitValue ∘ fractionChar = id from funext digitValue_digitChar,
          List.map_id]
      simp only [fractionText, List.cons_append, readFraction?]
      rw [takeWhile_isDigit_append allDigits (endsDigits_exponentText exponent),
        dropWhile_isDigit_append allDigits (endsDigits_exponentText exponent)]
      exact congrArg (fun read => some (read, exponentText exponent)) values

theorem readExponent?_text
    (exponent : Option Int) :
    readExponent? (exponentText exponent) = some exponent := by
  cases exponent with
  | none => rfl
  | some exponent =>
      rw [exponentText, readExponent?, if_pos (Or.inl rfl), integer?_intDigits,
        Option.map_some]

theorem ofText?_text
    (n : Number) :
    ofText? n.text = some n := by
  simp only [text, List.append_assoc, ofText?, readSign_text,
    readWhole?_text n.whole (endsDigits_fractionText n.fraction n.exponent),
    readFraction?_text, readExponent?_text, Option.bind_eq_bind, Option.bind_some,
    Option.pure_def]

end TableBooking.Json.Number
