import TableBooking.Decimal.RoundTrip

/-!
# Amounts that are read as zero

Plain notation never gives a sign to a zero. Scientific notation does so for an amount below
zero that is too small for the last place, and for no other text (`zeroUnsigned_iff`).
-/

namespace TableBooking.Decimal

open TableBooking.Text

theorem of_ofSignedParts?
    {negative : Bool} {mantissa scale : Nat} {d : Decimal}
    (made : ofSignedParts? negative mantissa scale = some d) :
    d.negative = negative ∧ d.mantissa = mantissa := by
  unfold ofSignedParts? at made
  split at made
  · obtain rfl := Option.some.inj made
    exact ⟨rfl, rfl⟩
  · contradiction

theorem zeroUnsigned_of_ofParts?
    {negative : Bool} {mantissa scale : Nat} {d : Decimal}
    (made : ofParts? negative mantissa scale = some d) :
    d.ZeroUnsigned := by
  obtain ⟨sign, digits⟩ := of_ofSignedParts? made
  intro zero
  rw [sign, ← digits, zero]
  simp

/-! ## Plain notation -/

/-- What holds of a text in plain notation and of the amount that it is read as. -/
structure ReadPlain (text : List Char) (d : Decimal) : Prop where
  unsigned : d.ZeroUnsigned
  unmarked : ∀ c ∈ text, isExponentMark c = false

theorem ReadPlain.cons
    {c : Char} {rest : List Char} {d : Decimal}
    (plain : ReadPlain rest d)
    (notMark : isExponentMark c = false) :
    ReadPlain (c :: rest) d where
  unsigned := plain.unsigned
  unmarked := List.forall_mem_cons.2 ⟨notMark, plain.unmarked⟩

theorem zeroUnsigned_of_round?
    {negative : Bool} {read : Digits} {digit : Nat} {d : Decimal}
    (rounded : read.round? negative digit = some d) :
    d.ZeroUnsigned := by
  unfold Digits.round? at rounded
  split at rounded
  · exact zeroUnsigned_of_ofParts? rounded
  · split at rounded
    · exact zeroUnsigned_of_ofParts? rounded
    · split at rounded
      · contradiction
      · exact zeroUnsigned_of_ofParts? rounded

theorem isExponentMark_of_isDigitOrSeparator
    {c : Char}
    (plain : isDigitOrSeparator c = true) :
    isExponentMark c = false := by
  rw [Bool.eq_false_iff]
  intro mark
  simp only [isExponentMark, Bool.or_eq_true, beq_iff_eq] at mark
  rcases mark with rfl | rfl
  · exact absurd plain (by decide)
  · exact absurd plain (by decide)

theorem readPlain_of_readDigits?
    {negative : Bool} {read : Digits} {text : List Char} {d : Decimal}
    (isRead : readDigits? negative read text = some d) :
    ReadPlain text d := by
  induction text generalizing read with
  | nil =>
      unfold readDigits? at isRead
      split at isRead
      · exact ⟨zeroUnsigned_of_ofParts? isRead, fun c member => absurd member List.not_mem_nil⟩
      · contradiction
  | cons c rest inductionHypothesis =>
      simp only [readDigits?] at isRead
      split at isRead
      · rename_i digit
        have notMark : isExponentMark c = false :=
          isExponentMark_of_isDigitOrSeparator (by simp [isDigitOrSeparator, digit])
        split at isRead
        · -- the digits from here on are left out, after rounding by the first of them
          split at isRead
          · rename_i leftOut
            have plain : ReadPlain rest d := by
              refine ⟨zeroUnsigned_of_round? isRead, ?_⟩
              intro other member
              exact isExponentMark_of_isDigitOrSeparator
                (List.all_eq_true.1 leftOut.2 other member)
            exact plain.cons notMark
          · contradiction
        · exact (inductionHypothesis isRead).cons notMark
      · split at isRead
        · rename_i point
          apply (inductionHypothesis isRead).cons
          rw [point.1]
          rfl
        · split at isRead
          · rename_i separator
            apply (inductionHypothesis isRead).cons
            rw [separator.1]
            rfl
          · contradiction

theorem readPlain_of_ofPlain?
    {text : List Char} {d : Decimal}
    (isRead : ofPlain? text = some d) :
    ReadPlain text d := by
  unfold ofPlain? at isRead
  split at isRead
  · exact (readPlain_of_readDigits? isRead).cons rfl
  · exact (readPlain_of_readDigits? isRead).cons rfl
  · exact readPlain_of_readDigits? isRead

/-! ## Scientific notation -/

theorem roundHalfUp_eq_zero_iff
    {dividend divisor : Nat}
    (positive : 0 < divisor) :
    roundHalfUp dividend divisor = 0 ↔ 2 * dividend < divisor := by
  rw [roundHalfUp, Nat.div_eq_zero_iff]
  omega

theorem natAbs_units
    (d : Decimal) :
    d.units.natAbs = d.mantissa * Nat.pow 10 (28 - d.scale) := by
  rw [units, Int.natAbs_mul, Int.natAbs_natCast, signedMantissa]
  split
  · rw [Int.natAbs_neg, Int.natAbs_natCast]
  · rw [Int.natAbs_natCast]

theorem of_shiftLeft?
    {d moved : Decimal} {places : Nat}
    (shifted : d.shiftLeft? places = some moved) :
    moved.negative = d.negative ∧
      ((d.scale + places ≤ 28 ∧ moved.mantissa = d.mantissa) ∨
        28 < d.scale + places ∧
          moved.mantissa = roundHalfUp d.mantissa (Nat.pow 10 (d.scale + places - 28))) := by
  unfold shiftLeft? at shifted
  split at shifted
  · contradiction
  · split at shifted
    · rename_i room
      obtain ⟨sign, digits⟩ := of_ofSignedParts? shifted
      exact ⟨sign, .inl ⟨room, digits⟩⟩
    · rename_i noRoom
      obtain ⟨sign, digits⟩ := of_ofSignedParts? shifted
      exact ⟨sign, .inr ⟨Nat.lt_of_not_le noRoom, digits⟩⟩

/-- An amount becomes zero if it is moved so far to the right of the point that it is less than
half a unit of the last place. -/
theorem mantissa_eq_zero_iff_of_shiftLeft?
    {d moved : Decimal} {places : Nat}
    (shifted : d.shiftLeft? places = some moved) :
    moved.mantissa = 0 ↔ 2 * d.units.natAbs < Nat.pow 10 places := by
  have base : 0 < Nat.pow 10 (28 - d.scale) := Nat.pow_pos (by decide)
  rw [natAbs_units]
  rcases (of_shiftLeft? shifted).2 with ⟨room, digits⟩ | ⟨noRoom, digits⟩
  · rw [digits]
    have smaller : Nat.pow 10 places ≤ Nat.pow 10 (28 - d.scale) :=
      Nat.pow_le_pow_right (by decide) (by omega)
    constructor
    · intro zero
      rw [zero, Nat.zero_mul]
      exact Nat.pow_pos (by decide)
    · intro small
      apply Nat.eq_zero_of_not_pos
      intro positive
      have atLeast : Nat.pow 10 (28 - d.scale) ≤ d.mantissa * Nat.pow 10 (28 - d.scale) :=
        Nat.le_mul_of_pos_left _ positive
      omega
  · have exponents : places = d.scale + places - 28 + (28 - d.scale) := by
      have bounded := d.scale_le
      omega
    have powers :
        Nat.pow 10 places =
          Nat.pow 10 (d.scale + places - 28) * Nat.pow 10 (28 - d.scale) :=
      (congrArg (Nat.pow 10) exponents).trans (Nat.pow_add 10 _ _)
    have divisor : 0 < Nat.pow 10 (d.scale + places - 28) := Nat.pow_pos (by decide)
    rw [digits, roundHalfUp_eq_zero_iff divisor, powers, ← Nat.mul_assoc,
      Nat.mul_lt_mul_right base]

theorem zeroUnsigned_of_shiftRight?
    {d moved : Decimal} {places : Nat}
    (shifted : d.shiftRight? places = some moved) :
    moved.ZeroUnsigned := by
  unfold shiftRight? at shifted
  split at shifted
  · exact zeroUnsigned_of_ofParts? shifted
  · split at shifted
    · contradiction
    · exact zeroUnsigned_of_ofParts? shifted

theorem ofScientific?_append
    {base : List Char} {mark : Char} (digits : List Char)
    (isMark : isExponentMark mark = true)
    (noMark : ∀ c ∈ base, isExponentMark c = false) :
    ofScientific? (base ++ mark :: '-' :: digits) =
      (ofPlain? base).bind fun amount => (exponent? digits).bind amount.shiftLeft? := by
  have passes : ∀ c ∈ base, (!isExponentMark c) = true := by
    intro c member
    rw [noMark c member]
    rfl
  have stops : ¬ (!isExponentMark mark) = true := by
    rw [isMark]
    decide
  have dropped :
      (base ++ mark :: '-' :: digits).dropWhile (fun c => !isExponentMark c) =
        mark :: '-' :: digits := by
    rw [List.dropWhile_append_of_pos passes]
    exact List.dropWhile_cons_of_neg stops
  have taken :
      (base ++ mark :: '-' :: digits).takeWhile (fun c => !isExponentMark c) = base := by
    rw [List.takeWhile_append_of_pos passes, List.takeWhile_cons_of_neg (by simp [isMark]),
      List.append_nil]
  simp only [ofScientific?, dropped, taken]
  rfl

/-- What an amount in scientific notation is made of, if it is a zero with a sign. -/
theorem exists_shiftLeft?_of_signed
    {text : List Char} {d : Decimal}
    (isRead : ofScientific? text = some d)
    (signed : ¬ d.ZeroUnsigned) :
    ∃ base mark digits amount places,
      text = base ++ mark :: '-' :: digits ∧ isExponentMark mark = true ∧
        ofPlain? base = some amount ∧ exponent? digits = some places ∧
          amount.shiftLeft? places = some d := by
  unfold ofScientific? at isRead
  split at isRead
  · contradiction
  · rename_i mark exponent rest
    have isMark : isExponentMark mark = true := by
      have stops := List.head?_dropWhile_not (fun c => !isExponentMark c) text
      rw [rest] at stops
      simpa using stops
    have whole : text.takeWhile (fun c => !isExponentMark c) ++ mark :: exponent = text := by
      rw [← rest]
      exact List.takeWhile_append_dropWhile
    simp only [Option.bind_eq_bind, Option.bind_eq_some_iff] at isRead
    obtain ⟨amount, plain, isRead⟩ := isRead
    split at isRead
    · rename_i digits
      obtain ⟨places, counted, shifted⟩ := Option.bind_eq_some_iff.1 isRead
      exact ⟨_, mark, digits, amount, places, whole.symm, isMark, plain, counted, shifted⟩
    · obtain ⟨places, _, shifted⟩ := Option.bind_eq_some_iff.1 isRead
      exact absurd (zeroUnsigned_of_shiftRight? shifted) signed

/-- Does the text stand, in scientific notation, for an amount below zero that is less than half
a unit of the last place? -/
def UnderflowsFromBelow (text : List Char) : Prop :=
  ∃ base mark digits amount places,
    text = base ++ mark :: '-' :: digits ∧ isExponentMark mark = true ∧
      ofPlain? base = some amount ∧ exponent? digits = some places ∧
        amount.isNegative = true ∧ 2 * amount.units.natAbs < Nat.pow 10 places

/-- A zero that was read has a sign if and only if its text underflows from below. -/
theorem zeroUnsigned_iff
    {text : List Char} {d : Decimal}
    (isRead : ofText? text = some d) :
    d.ZeroUnsigned ↔ ¬ UnderflowsFromBelow text := by
  unfold ofText? at isRead
  constructor
  · rintro unsigned
      ⟨base, mark, digits, amount, places, rfl, isMark, plain, counted, below, small⟩
    split at isRead
    · rename_i whole
      have notMark := (readPlain_of_ofPlain? whole).unmarked mark
        (List.mem_append_right base List.mem_cons_self)
      rw [isMark] at notMark
      exact Bool.noConfusion notMark
    · rw [ofScientific?_append digits isMark (readPlain_of_ofPlain? plain).unmarked, plain,
        Option.bind_some, counted, Option.bind_some] at isRead
      have zero := (mantissa_eq_zero_iff_of_shiftLeft? isRead).2 small
      have noSign : amount.negative = false := (of_shiftLeft? isRead).1 ▸ unsigned zero
      rw [isNegative, noSign] at below
      exact Bool.noConfusion below
  · intro fits
    apply Decidable.byContradiction
    intro signed
    split at isRead
    · rename_i plain
      obtain rfl := Option.some.inj isRead
      exact signed (readPlain_of_ofPlain? plain).unsigned
    · obtain ⟨base, mark, digits, amount, places, rfl, isMark, plain, counted, shifted⟩ :=
        exists_shiftLeft?_of_signed isRead signed
      have signedZero : d.mantissa = 0 ∧ d.negative = true := by
        simpa [ZeroUnsigned] using signed
      have negative : amount.negative = true := (of_shiftLeft? shifted).1 ▸ signedZero.2
      have notZero : amount.mantissa ≠ 0 := by
        intro isZero
        rw [(readPlain_of_ofPlain? plain).unsigned isZero] at negative
        exact Bool.noConfusion negative
      have below : amount.isNegative = true := by
        simp [isNegative, negative, notZero]
      exact fits ⟨base, mark, digits, amount, places, rfl, isMark, plain, counted, below,
        (mantissa_eq_zero_iff_of_shiftLeft? shifted).1 signedZero.1⟩

/-! ## JSON -/

/-- Does the value stand for an amount that underflows from below? -/
def Vanishes : Json → Prop
  | .string text => UnderflowsFromBelow text.toList
  | _ => False

theorem zeroUnsigned_of_ofNumber?
    {n : Json.Number} {d : Decimal}
    (isRead : ofNumber? n = some d) :
    d.ZeroUnsigned := by
  have ofDouble {d : Decimal} (double : ofDouble? n = some d) : d.ZeroUnsigned := by
    obtain ⟨magnitude, _, plain⟩ := Option.bind_eq_some_iff.1 double
    exact (readPlain_of_ofPlain? plain).unsigned
  unfold ofNumber? at isRead
  split at isRead
  · split at isRead
    · exact zeroUnsigned_of_ofParts? isRead
    · exact ofDouble isRead
  · exact ofDouble isRead

theorem zeroUnsigned_iff_of_ofJson?
    {value : Json} {d : Decimal}
    (isRead : ofJson? value = some d) :
    d.ZeroUnsigned ↔ ¬ Vanishes value := by
  unfold ofJson? at isRead
  split at isRead
  · exact zeroUnsigned_iff isRead
  · exact iff_of_true (zeroUnsigned_of_ofNumber? isRead) id
  · contradiction

end TableBooking.Decimal
