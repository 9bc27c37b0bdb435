import TableBooking.Json.Quoted

/-!
# Reading a quoted text

What is written between quotation marks is quoted correctly (`isQuoted_encode`) and is
read as the text (`decode_encode`). An escape stands for one character, and a character
that needs no escape stands for itself.
-/

namespace TableBooking.Json.Quoted

open TableBooking.Text

theorem decode_escape
    {letter character : Char} (rest : List Char)
    (escape : escaped? letter = some character) :
    decode ('\\' :: letter :: rest) = (decode rest).map (character :: ·) := by
  have noUnit : letter ≠ 'u' := by
    rintro rfl
    exact nomatch escape
  rw [decode.eq_3]
  · rw [escape]
  · intro a b c d others equality
    exact absurd equality noUnit

theorem decode_unit
    {a b c d : Char} {unit : Nat} (rest : List Char)
    (digits : unit? a b c d = some unit)
    (small : unit < 0xD800) :
    decode ('\\' :: 'u' :: a :: b :: c :: d :: rest) =
      (decode rest).map (Char.ofNat unit :: ·) := by
  have notHigh : isHighSurrogate unit = false := by
    simp only [isHighSurrogate, Bool.and_eq_false_iff, decide_eq_false_iff_not]
    omega
  have notLow : isLowSurrogate unit = false := by
    simp only [isLowSurrogate, Bool.and_eq_false_iff, decide_eq_false_iff_not]
    omega
  rw [decode.eq_2, digits]
  simp only [notHigh, notLow, Bool.false_eq_true, if_false]

theorem decode_plain
    {c : Char} (rest : List Char)
    (noBackslash : c ≠ '\\') (noMark : c ≠ '"') (noControl : ¬ c.toNat < 0x20) :
    decode (c :: rest) = (decode rest).map (c :: ·) := by
  have plain : ¬ (c = '\\' ∨ c = '"' ∨ c.toNat < 0x20) := by
    rintro (backslash | mark | control)
    · exact noBackslash backslash
    · exact noMark mark
    · exact noControl control
  rw [decode.eq_4]
  · rw [if_neg plain]
  · intro a b e d others backslash
    exact absurd backslash noBackslash
  · intro letter others backslash
    exact absurd backslash noBackslash

/-- The four digits of a control character are its code point. -/
theorem unit?_control :
    ∀ value : Fin 32,
      unit? '0' '0' (hexChar (hexDigit (value / 16))) (hexChar (hexDigit value)) =
        some value.val := by
  decide

theorem decode_encodeChar
    (c : Char) (rest : List Char) :
    decode (encodeChar c ++ rest) = (decode rest).map (c :: ·) := by
  unfold encodeChar
  split
  iterate 7 exact decode_escape rest rfl
  split
  · rename_i control
    have digits := unit?_control ⟨c.toNat, control⟩
    exact (decode_unit rest digits (by omega)).trans (by rw [Char.ofNat_toNat])
  · rename_i noMark noBackslash _ _ _ _ _ noControl
    exact decode_plain rest noBackslash noMark noControl

theorem decode_encode
    (text : List Char) :
    decode (encode text) = some text := by
  induction text with
  | nil => rfl
  | cons c rest inductionHypothesis =>
      rw [encode, List.flatMap_cons, decode_encodeChar, ← encode, inductionHypothesis,
        Option.map_some]

theorem text?_encode
    (text : String) :
    text? (encode text.toList) = some text := by
  rw [text?, decode_encode, Option.map_some, String.ofList_toList]

/-! ## Correctness -/

theorem isQuoted_escape
    {letter character : Char} (rest : List Char)
    (escape : escaped? letter = some character) :
    isQuoted ('\\' :: letter :: rest) = isQuoted rest := by
  have noUnit : letter ≠ 'u' := by
    rintro rfl
    exact nomatch escape
  rw [isQuoted.eq_3]
  · rw [escape, Option.isSome_some, Bool.true_and]
  · intro a b c d others equality
    exact absurd equality noUnit

theorem isQuoted_plain
    {c : Char} (rest : List Char)
    (noBackslash : c ≠ '\\') (noMark : c ≠ '"') (noControl : ¬ c.toNat < 0x20) :
    isQuoted (c :: rest) = isQuoted rest := by
  rw [isQuoted.eq_4]
  · rw [bne_iff_ne.2 noBackslash, bne_iff_ne.2 noMark,
      decide_eq_true (Nat.not_lt.1 noControl), Bool.true_and, Bool.true_and, Bool.true_and]
  · intro a b e d others backslash
    exact absurd backslash noBackslash
  · intro letter others backslash
    exact absurd backslash noBackslash

theorem isQuoted_encodeChar
    (c : Char) (rest : List Char) :
    isQuoted (encodeChar c ++ rest) = isQuoted rest := by
  unfold encodeChar
  split
  iterate 7 exact isQuoted_escape rest rfl
  split
  · rename_i control
    have digits := unit?_control ⟨c.toNat, control⟩
    simp only [controlEscape, List.cons_append, List.nil_append]
    rw [isQuoted.eq_2, digits, Option.isSome_some, Bool.true_and]
  · rename_i noMark noBackslash _ _ _ _ _ noControl
    exact isQuoted_plain rest noBackslash noMark noControl

theorem isQuoted_encode
    (text : List Char) :
    isQuoted (encode text) = true := by
  induction text with
  | nil => rfl
  | cons c rest inductionHypothesis =>
      rw [encode, List.flatMap_cons, isQuoted_encodeChar, ← encode, inductionHypothesis]

end TableBooking.Json.Quoted
