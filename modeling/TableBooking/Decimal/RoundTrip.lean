import TableBooking.Decimal.Text

/-!
# Reading the text of an amount

The text of an amount is read as that amount, trailing zeros included, but without the sign
of a zero (`ofText?_chars`): its digits never exceed what an amount can hold, so none is
rounded away.
-/

namespace TableBooking.Decimal

open TableBooking.Text

/-! ## Digits -/

/-- The digits after some more characters, all of them digits. -/
def Digits.append (read : Digits) (digits : List Char) : Digits where
  mantissa := Nat.ofDigitChars 10 digits read.mantissa
  scale := if read.pointed then read.scale + digits.length else read.scale
  pointed := read.pointed
  started := read.started || !digits.isEmpty

theorem le_ofDigitChars
    (digits : List Char) (initial : Nat) :
    initial ≤ Nat.ofDigitChars 10 digits initial := by
  induction digits generalizing initial with
  | nil => exact Nat.le_of_eq Nat.ofDigitChars_nil.symm
  | cons c digits inductionHypothesis =>
      rw [Nat.ofDigitChars_cons]
      have more := inductionHypothesis (10 * initial + (c.toNat - '0'.toNat))
      omega

theorem append_nil
    (read : Digits) :
    read.append [] = read := by
  obtain ⟨mantissa, scale, pointed, started⟩ := read
  cases pointed <;> simp [Digits.append]

theorem push_append
    (read : Digits) {c : Char} (digits : List Char)
    (digit : c.isDigit = true) :
    (read.push (digitValue c).val).append digits = read.append (c :: digits) := by
  have value : read.mantissa * 10 + (c.toNat - 48) = 10 * read.mantissa + (c.toNat - 48) := by
    omega
  have places : read.scale + 1 + digits.length = read.scale + (digits.length + 1) := by
    omega
  cases pointed : read.pointed <;>
    simp [Digits.append, Digits.push, pointed, digitValue_of_isDigit digit, value, places,
      Nat.ofDigitChars_cons]

/-- Digits that an amount can hold are read one after the other. -/
theorem readDigits?_append
    (negative : Bool) (read : Digits) (digits rest : List Char)
    (allDigits : ∀ c ∈ digits, c.isDigit = true)
    (fits : Nat.ofDigitChars 10 digits read.mantissa < mantissaBound)
    (places : read.pointed = true → read.scale + digits.length ≤ 28) :
    readDigits? negative read (digits ++ rest) =
      readDigits? negative (read.append digits) rest := by
  induction digits generalizing read with
  | nil => rw [List.nil_append, append_nil]
  | cons c digits inductionHypothesis =>
      have digit : c.isDigit = true := allDigits c List.mem_cons_self
      have pushed :
          (read.push (digitValue c).val).mantissa =
            10 * read.mantissa + (c.toNat - '0'.toNat) := by
        rw [Digits.push, digitValue_of_isDigit digit, Nat.mul_comm]
        rfl
      have fitsAfter :
          Nat.ofDigitChars 10 digits (read.push (digitValue c).val).mantissa <
            mantissaBound := by
        rw [pushed, ← Nat.ofDigitChars_cons]
        exact fits
      have bounded :
          read.mantissa * 10 + (digitValue c).val < mantissaBound :=
        Nat.lt_of_le_of_lt
          (le_ofDigitChars digits (read.push (digitValue c).val).mantissa) fitsAfter
      have notFull : read.isFull (digitValue c).val = false := by
        rw [Digits.isFull, Bool.or_eq_false_iff, Bool.and_eq_false_iff, decide_eq_false_iff_not]
        refine ⟨?_, Nat.not_le.2 bounded⟩
        cases pointed : read.pointed with
        | false => exact Or.inl rfl
        | true =>
            have room := places pointed
            rw [List.length_cons] at room
            exact Or.inr (beq_eq_false_iff_ne.2 (by omega))
      have roomAfter :
          (read.push (digitValue c).val).pointed = true →
            (read.push (digitValue c).val).scale + digits.length ≤ 28 := by
        intro pointed
        have stillPointed : read.pointed = true := pointed
        have room := places stillPointed
        rw [List.length_cons] at room
        simp only [Digits.push, stillPointed, if_true]
        omega
      have step :
          readDigits? negative read (c :: (digits ++ rest)) =
            readDigits? negative (read.push (digitValue c).val) (digits ++ rest) := by
        simp only [readDigits?, digit, notFull, if_true, Bool.false_eq_true, if_false]
      rw [List.cons_append, step,
        inductionHypothesis _ (fun other member => allDigits other (List.mem_cons_of_mem c member))
          fitsAfter roomAfter,
        push_append read digits digit]

/-! ## Amounts -/

theorem ofSignedParts?_parts
    (d : Decimal) :
    ofSignedParts? d.negative d.mantissa d.scale = some d :=
  dif_pos ⟨d.mantissa_lt, d.scale_le⟩

/-- The amount without the sign of a zero. -/
def settled (d : Decimal) : Decimal :=
  { d with negative := d.negative && d.mantissa != 0 }

theorem zeroUnsigned_settled
    (d : Decimal) :
    d.settled.ZeroUnsigned := by
  intro zero
  change d.mantissa = 0 at zero
  simp [settled, zero]

theorem settled_of_zeroUnsigned
    {d : Decimal}
    (unsigned : d.ZeroUnsigned) :
    d.settled = d := by
  by_cases zero : d.mantissa = 0
  · have noSign := unsigned zero
    ext <;> simp [settled, noSign]
  · ext <;> simp [settled, zero]

theorem sameNumber_settled
    (d : Decimal) :
    d.settled.SameNumber d := by
  by_cases zero : d.mantissa = 0
  · simp [SameNumber, units, signedMantissa, settled, zero]
  · simp [SameNumber, units, signedMantissa, settled, zero]

/-- The parts of an amount make that amount, without the sign of a zero. -/
theorem ofParts?_parts
    (d : Decimal) :
    ofParts? d.negative d.mantissa d.scale = some d.settled :=
  ofSignedParts?_parts d.settled

def unsignedChars (d : Decimal) : List Char :=
  Nat.toDigits 10 (d.mantissa / Nat.pow 10 d.scale) ++
    (if d.scale = 0 then [] else '.' :: padded d.scale (d.mantissa % Nat.pow 10 d.scale))

theorem readDigits?_unsignedChars
    (d : Decimal) :
    readDigits? d.negative .start d.unsignedChars = some d.settled := by
  have bound := d.mantissa_lt
  have base : 0 < Nat.pow 10 d.scale := Nat.pow_pos (by decide)
  have wholeFits :
      Nat.ofDigitChars 10 (Nat.toDigits 10 (d.mantissa / Nat.pow 10 d.scale))
        Digits.start.mantissa < mantissaBound := by
    rw [Digits.start, Nat.ofDigitChars_ten_toDigits]
    exact Nat.lt_of_le_of_lt (Nat.div_le_self ..) bound
  have started :
      (!(Nat.toDigits 10 (d.mantissa / Nat.pow 10 d.scale)).isEmpty) = true := by
    rw [Bool.not_eq_true', List.isEmpty_eq_false_iff]
    exact Nat.toDigits_ne_nil
  have whole :
      Digits.start.append (Nat.toDigits 10 (d.mantissa / Nat.pow 10 d.scale)) =
        ⟨d.mantissa / Nat.pow 10 d.scale, 0, false, true⟩ := by
    rw [Digits.append, started, Digits.start, Nat.ofDigitChars_ten_toDigits]
    rfl
  rw [unsignedChars,
    readDigits?_append _ _ _ _ (fun _ member => isDigit_of_mem_toDigits member) wholeFits
      (fun pointed => absurd pointed Bool.false_ne_true),
    whole]
  by_cases unscaled : d.scale = 0
  · have everything : d.mantissa / Nat.pow 10 d.scale = d.mantissa := by
      rw [unscaled]
      exact Nat.div_one _
    rw [if_pos unscaled, everything, readDigits?, if_pos rfl, ← unscaled]
    exact ofParts?_parts d
  · have small : d.mantissa % Nat.pow 10 d.scale < Nat.pow 10 d.scale := Nat.mod_lt _ base
    have width : (padded d.scale (d.mantissa % Nat.pow 10 d.scale)).length = d.scale :=
      length_padded ((Nat.length_toDigits_le_iff (by decide) (by omega)).2 small)
    have value :
        Nat.ofDigitChars 10 (padded d.scale (d.mantissa % Nat.pow 10 d.scale))
          (d.mantissa / Nat.pow 10 d.scale) = d.mantissa := by
      rw [Nat.ofDigitChars_eq_ofDigitChars_zero, ofDigitChars_padded, width]
      exact Nat.div_add_mod d.mantissa (Nat.pow 10 d.scale)
    have point :
        readDigits? d.negative ⟨d.mantissa / Nat.pow 10 d.scale, 0, false, true⟩
            ('.' :: padded d.scale (d.mantissa % Nat.pow 10 d.scale)) =
          readDigits? d.negative ⟨d.mantissa / Nat.pow 10 d.scale, 0, true, true⟩
            (padded d.scale (d.mantissa % Nat.pow 10 d.scale) ++ []) := by
      rw [List.append_nil]
      rfl
    have everything :
        Digits.append ⟨d.mantissa / Nat.pow 10 d.scale, 0, true, true⟩
            (padded d.scale (d.mantissa % Nat.pow 10 d.scale)) =
          ⟨d.mantissa, d.scale, true, true⟩ := by
      simp only [Digits.append, value, width, if_true, Nat.zero_add, Bool.true_or]
    rw [if_neg unscaled, point,
      readDigits?_append _ _ _ _ (fun _ member => isDigit_of_mem_padded member)
        (by rw [value]; exact bound)
        (fun _ => by rw [width, Nat.zero_add]; exact d.scale_le),
      everything, readDigits?, if_pos rfl]
    exact ofParts?_parts d

theorem ofPlain?_chars
    (d : Decimal) :
    ofPlain? d.chars = some d.settled := by
  have read := readDigits?_unsignedChars d
  have split : d.chars = (if d.negative then ['-'] else []) ++ d.unsignedChars := by
    rw [chars, unsignedChars, List.append_assoc]
  cases sign : d.negative with
  | true =>
      rw [sign] at read
      rw [split, sign]
      exact read
  | false =>
      rw [sign] at read
      rw [split, sign, if_neg Bool.false_ne_true, List.nil_append]
      cases digits : Nat.toDigits 10 (d.mantissa / Nat.pow 10 d.scale) with
      | nil => exact absurd digits Nat.toDigits_ne_nil
      | cons first others =>
          have digit : first.isDigit = true := by
            apply isDigit_of_mem_toDigits (n := d.mantissa / Nat.pow 10 d.scale)
            rw [digits]
            exact List.mem_cons_self
          have shape :
              d.unsignedChars = first :: (others ++
                (if d.scale = 0 then []
                 else '.' :: padded d.scale (d.mantissa % Nat.pow 10 d.scale))) := by
            rw [unsignedChars, digits, List.cons_append]
          rw [shape] at read ⊢
          unfold ofPlain?
          split
          · rename_i equality
            injection equality with firstEq
            subst firstEq
            exact absurd digit (by decide)
          · rename_i equality
            injection equality with firstEq
            subst firstEq
            exact absurd digit (by decide)
          · exact read

/-- The text of an amount is read as that amount, without the sign of a zero. -/
theorem ofText?_chars
    (d : Decimal) :
    ofText? d.chars = some d.settled := by
  rw [ofText?, ofPlain?_chars d]

end TableBooking.Decimal
