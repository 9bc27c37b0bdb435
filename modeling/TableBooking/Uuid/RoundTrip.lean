import TableBooking.Uuid

/-!
# Reading the text of an identity

The hyphenated text of an identity is read as that identity (`ofText?_chars`).
-/

namespace TableBooking.Uuid

open TableBooking.Text

theorem mapM_hexValue?_map
    (digits : List (Fin 16)) :
    (digits.map hexChar).mapM hexValue? = some digits := by
  induction digits with
  | nil => rfl
  | cons digit digits inductionHypothesis =>
      rw [List.map_cons, List.mapM_cons, hexValue?_hexChar, inductionHypothesis]
      rfl

theorem ofDigits?_map
    (u : Uuid) :
    ofDigits? (u.digits.map hexChar) = some u := by
  rw [ofDigits?, mapM_hexValue?_map]
  exact dif_pos u.length_digits

/-- Hyphens after 8, 12, 16 and 20 characters are left out when the rest is read. -/
theorem ofHyphenated?_append
    {first second third fourth fifth : List Char}
    (length_first : first.length = 8)
    (length_second : second.length = 4)
    (length_third : third.length = 4)
    (length_fourth : fourth.length = 4)
    (length_fifth : fifth.length = 12) :
    ofHyphenated?
        (first ++ '-' :: (second ++ '-' :: (third ++ '-' :: (fourth ++ '-' :: fifth)))) =
      ofDigits? (first ++ second ++ third ++ fourth ++ fifth) := by
  have hyphens :
      (first ++ '-' :: (second ++ '-' :: (third ++ '-' :: (fourth ++ '-' :: fifth))))[8]? =
          some '-' ∧
        (first ++ '-' :: (second ++ '-' :: (third ++ '-' :: (fourth ++ '-' :: fifth))))[13]? =
          some '-' ∧
        (first ++ '-' :: (second ++ '-' :: (third ++ '-' :: (fourth ++ '-' :: fifth))))[18]? =
          some '-' ∧
        (first ++ '-' :: (second ++ '-' :: (third ++ '-' :: (fourth ++ '-' :: fifth))))[23]? =
          some '-' := by
    simp [List.getElem?_append, length_first, length_second, length_third,
      length_fourth]
  rw [ofHyphenated?, if_pos ⟨by
    simp [length_first, length_second, length_third, length_fourth, length_fifth], hyphens⟩]
  simp [List.drop_append, List.drop_eq_nil_of_le, length_first, length_second, length_third,
    length_fourth]

/-- The parts between the hyphens make up the text without them. -/
theorem parts_append
    (text : List Char) :
    text.take 8 ++ (text.drop 8).take 4 ++ (text.drop 12).take 4 ++ (text.drop 16).take 4 ++
        text.drop 20 =
      text := by
  have rejoin (start count : Nat) :
      text.take start ++ (text.drop start).take count = text.take (start + count) := by
    rw [List.take_add]
  rw [rejoin 8 4, rejoin 12 4, rejoin 16 4, List.take_append_drop]

theorem ofHyphenated?_chars
    (u : Uuid) :
    ofHyphenated? u.chars = some u := by
  have length_text : (u.digits.map hexChar).length = 32 := by
    rw [List.length_map, u.length_digits]
  have length_first : ((u.digits.map hexChar).take 8).length = 8 := by
    rw [List.length_take, length_text]
    rfl
  have length_part (start : Nat) (inside : start + 4 ≤ 32) :
      (((u.digits.map hexChar).drop start).take 4).length = 4 := by
    rw [List.length_take, List.length_drop, length_text]
    omega
  have length_last : ((u.digits.map hexChar).drop 20).length = 12 := by
    rw [List.length_drop, length_text]
  have shape := ofHyphenated?_append length_first (length_part 8 (by decide))
    (length_part 12 (by decide)) (length_part 16 (by decide)) length_last
  rw [parts_append, ofDigits?_map] at shape
  rw [chars]
  simpa only [List.append_assoc, List.cons_append] using shape

theorem length_chars
    (u : Uuid) :
    u.chars.length = 36 := by
  simp [chars, u.length_digits]

/-- The text of an identity is read as that identity. -/
theorem ofText?_chars
    (u : Uuid) :
    ofText? u.chars = some u := by
  rw [ofText?, length_chars, if_neg (by decide), if_pos rfl, ofHyphenated?_chars]

end TableBooking.Uuid
