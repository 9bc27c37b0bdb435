/-!
# Lines

A line ends with a line feed, and a carriage return before it belongs to its end. What
follows the last line feed is a line too, unless it is empty.
-/

namespace TableBooking.Text

/-- A line without the carriage return at its end. -/
def withoutReturn (line : List Char) : List Char :=
  if line.getLast? = some '\r' then line.dropLast else line

def lines (text : List Char) : List (List Char) :=
  let pieces := text.splitOn '\n'
  pieces.dropLast.map withoutReturn ++ (pieces.getLast?.toList.filter (· != []))

end TableBooking.Text
