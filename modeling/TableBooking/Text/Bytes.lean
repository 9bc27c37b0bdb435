/-!
# Bytes of a text

Positions in a text may be counted in the bytes of its UTF-8 form, of which a character
has one to four.
-/

namespace TableBooking.Text

def byteLength : List Char → Nat
  | [] => 0
  | c :: rest => c.utf8Size + byteLength rest

/-- The text split after a number of bytes, if that many make up whole characters. -/
def splitBytes? : Nat → List Char → Option (List Char × List Char)
  | 0, text => some ([], text)
  | _ + 1, [] => none
  | bytes + 1, c :: rest =>
    if c.utf8Size ≤ bytes + 1 then
      (splitBytes? (bytes + 1 - c.utf8Size) rest).map fun (taken, rest) => (c :: taken, rest)
    else none

end TableBooking.Text
