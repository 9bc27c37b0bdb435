import TableBooking.Logging.Entry
import TableBooking.Text.Lines
import TableBooking.Text.Printed

/-!
# Log lines

The text of an entry is the level, right-aligned in five characters, then the message,
if there is one, then the fields with an equals sign after each name, all with one blank
between them. It is one line, unless the value of a field goes over several.
-/

namespace TableBooking.LogEntry

def valueText : LogValue → String
  | .text value => Text.printed value
  | .shown form => form
  | .number value => Text.ofInt value

def levelText (level : Level) : String :=
  String.ofList (level.name.toList.leftpad 5 ' ')

def text (entry : LogEntry) : String :=
  " ".intercalate
    (levelText entry.level :: entry.message.toList ++
      entry.fields.map fun field => field.1 ++ "=" ++ valueText field.2)

def lines (entry : LogEntry) : List String :=
  (Text.lines (entry.text.toList ++ ['\n'])).map String.ofList

end TableBooking.LogEntry
