/-!
# Sets of code points

A set of code points is a list of ranges, each given by its first and its last code
point, in ascending order.
-/

namespace TableBooking.Text

/-- Is the code point of the character in one of the ranges? -/
def isWithin (ranges : List (Nat × Nat)) (c : Char) : Bool :=
  ranges.any fun range => range.1 ≤ c.toNat && c.toNat ≤ range.2

end TableBooking.Text
