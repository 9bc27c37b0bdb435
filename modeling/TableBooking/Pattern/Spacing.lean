import TableBooking.Text.Blank

/-!
# Spacing in patterns

Where the flag for it is set, blanks may stand between the parts of a pattern, and
comments, which go from a hash sign to the end of the line.
-/

namespace TableBooking.Pattern

open TableBooking.Text

mutual

/-- The text without the blanks and comments at its start. -/
def afterSpacing : List Char → List Char
  | [] => []
  | c :: rest =>
    if c = '#' then afterComment rest else if isBlank c then afterSpacing rest else c :: rest

/-- What comes after the comment and the spacing that a text starts in. -/
def afterComment : List Char → List Char
  | [] => []
  | c :: rest => if c = '\n' then afterSpacing rest else afterComment rest

end

/-- The text from its next part on. -/
def next (spaced : Bool) (text : List Char) : List Char :=
  if spaced then afterSpacing text else text

/-- The character that is looked at to tell a hyphen from a range. A hash sign is passed
over like a blank, and its comment is not. -/
def glance (spaced : Bool) (text : List Char) : Option Char :=
  if spaced then
    match text.dropWhile isBlank with
    | '#' :: rest => (rest.dropWhile isBlank).head?
    | rest => rest.head?
  else text.head?

end TableBooking.Pattern
