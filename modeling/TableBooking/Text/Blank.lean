/-!
# Blank characters

The characters of Unicode's `White_Space` property, and the removal of blanks
from the ends of a text. U+001C to U+001F, U+200B and U+FEFF lack the property
and are kept.
-/

namespace TableBooking.Text

/-- Has the character Unicode's `White_Space` property? -/
def isBlank (c : Char) : Bool :=
  let n := c.toNat
  (0x09 ≤ n && n ≤ 0x0D) || n == 0x20 || n == 0x85 || n == 0xA0 || n == 0x1680 ||
    (0x2000 ≤ n && n ≤ 0x200A) || n == 0x2028 || n == 0x2029 || n == 0x202F ||
    n == 0x205F || n == 0x3000

def trimStart (text : List Char) : List Char :=
  text.dropWhile isBlank

def trimEnd (text : List Char) : List Char :=
  (trimStart text.reverse).reverse

def trim (text : List Char) : List Char :=
  trimEnd (trimStart text)

/-! ## Blanks around a text -/

theorem exists_blank_trimStart
    (text : List Char) :
    ∃ before, text = before ++ trimStart text ∧ ∀ c ∈ before, isBlank c = true :=
  ⟨text.takeWhile isBlank, List.takeWhile_append_dropWhile.symm,
    List.all_eq_true.1 List.all_takeWhile⟩

theorem exists_trimEnd_blank
    (text : List Char) :
    ∃ after, text = trimEnd text ++ after ∧ ∀ c ∈ after, isBlank c = true := by
  obtain ⟨ending, split, blank⟩ := exists_blank_trimStart text.reverse
  refine ⟨ending.reverse, ?_, fun c member => blank c (List.mem_reverse.1 member)⟩
  rw [trimEnd, ← List.reverse_append, ← split, List.reverse_reverse]

/-- All that is cut off is blank. -/
theorem exists_blank_trim_blank
    (text : List Char) :
    ∃ before after, text = before ++ trim text ++ after ∧
      (∀ c ∈ before, isBlank c = true) ∧ ∀ c ∈ after, isBlank c = true := by
  obtain ⟨before, splitStart, blankBefore⟩ := exists_blank_trimStart text
  obtain ⟨after, splitEnd, blankAfter⟩ := exists_trimEnd_blank (trimStart text)
  refine ⟨before, after, ?_, blankBefore, blankAfter⟩
  rw [trim, List.append_assoc, ← splitEnd, ← splitStart]

theorem trimStart_append_of_blank
    {before : List Char}
    (blank : ∀ c ∈ before, isBlank c = true)
    (text : List Char) :
    trimStart (before ++ text) = trimStart text :=
  List.dropWhile_append_of_pos blank

theorem trimEnd_append_of_blank
    {after : List Char}
    (blank : ∀ c ∈ after, isBlank c = true)
    (text : List Char) :
    trimEnd (text ++ after) = trimEnd text := by
  have blankReversed : ∀ c ∈ after.reverse, isBlank c = true :=
    fun c member => blank c (List.mem_reverse.1 member)
  rw [trimEnd, List.reverse_append, trimStart_append_of_blank blankReversed, trimEnd]

/-- Blanks around a text do not matter once they are cut off. -/
theorem trim_around
    {before after : List Char}
    (blankBefore : ∀ c ∈ before, isBlank c = true)
    (blankAfter : ∀ c ∈ after, isBlank c = true)
    (text : List Char) :
    trim (before ++ text ++ after) = trim text := by
  rw [List.append_assoc, trim, trimStart_append_of_blank blankBefore, trim]
  by_cases allBlank : trimStart text = []
  · -- a text of blanks alone is cut off together with the blanks after it
    have nothingLeft : trimStart (text ++ after) = trimStart after := by
      rw [trimStart, List.dropWhile_append, ← trimStart, allBlank]
      rfl
    have afterCut := trimStart_append_of_blank blankAfter []
    rw [List.append_nil] at afterCut
    rw [nothingLeft, afterCut, allBlank]
    rfl
  · have keepsEnd : trimStart (text ++ after) = trimStart text ++ after := by
      rw [trimStart, List.dropWhile_append, ← trimStart, if_neg]
      exact fun isEmpty => allBlank (List.isEmpty_iff.1 isEmpty)
    rw [keepsEnd, trimEnd_append_of_blank blankAfter]

end TableBooking.Text
