import TableBooking.Calendar.DateTime
import TableBooking.Json.Basic
import TableBooking.Text.Blank
import TableBooking.Text.Digits

/-!
# Date-times as text

A date-time is written as year, month, day, hour, minute and second with as few
fraction digits as are exact, in threes. A year outside 0 to 9999 has a sign. A leap
second is second 60.

Reading takes the same order of items. Blanks may stand before each item but the
fraction, and at the end; all numbers but the year have one or two digits.
-/

namespace TableBooking.DateTime

open TableBooking.Text

/-! ## Writing -/

/-- The text of a year: four digits, or a sign and at least four digits. -/
def yearChars (year : Int) : List Char :=
  if 0 ≤ year ∧ year ≤ 9999 then padded 4 year.natAbs
  else (if year < 0 then '-' else '+') :: padded 4 year.natAbs

def dateChars (date : Civil) : List Char :=
  yearChars date.year ++ '-' :: padded 2 date.month ++ '-' :: padded 2 date.day

/-- The text of a fraction of a second: nothing, or three, six or nine digits. -/
def fractionChars (nano : Nat) : List Char :=
  if nano = 0 then []
  else if nano % 1_000_000 = 0 then '.' :: padded 3 (nano / 1_000_000)
  else if nano % 1_000 = 0 then '.' :: padded 6 (nano / 1_000)
  else '.' :: padded 9 nano

def timeChars (t : DateTime) : List Char :=
  padded 2 (t.second / 3600) ++ ':' :: padded 2 (t.second / 60 % 60) ++
    ':' :: padded 2 (t.second % 60 + t.nano / 1_000_000_000) ++
      fractionChars (t.nano % 1_000_000_000)

/-- The text of a date-time with a given mark between date and time. -/
def chars (mark : Char) (t : DateTime) : List Char :=
  dateChars t.date ++ mark :: timeChars t

/-- The text by which date-times are exchanged. -/
def text (t : DateTime) : String :=
  String.ofList (chars 'T' t)

/-- The text by which date-times are shown to people. -/
def shown (t : DateTime) : String :=
  String.ofList (chars ' ' t)

/-! ## Reading items -/

/-- Takes one or more digits, at most `limit`, from the start of a text. -/
def readDigits? (limit : Nat) (text : List Char) : Option (Nat × List Char) :=
  let digits := (text.take limit).takeWhile Char.isDigit
  if digits = [] then none
  else some (Nat.ofDigitChars 10 digits 0, text.drop digits.length)

/-- Takes a number of one or two digits, after blanks, from the start of a text. -/
def readField? (text : List Char) : Option (Nat × List Char) :=
  readDigits? 2 (trimStart text)

/-- Takes a year, after blanks, from the start of a text: up to four digits, or a
sign and any number of digits. -/
def readYear? (text : List Char) : Option (Int × List Char) :=
  match trimStart text with
  | '-' :: rest => (readDigits? rest.length rest).map fun (n, rest) => (-(n : Int), rest)
  | '+' :: rest => (readDigits? rest.length rest).map fun (n, rest) => ((n : Int), rest)
  | text => (readDigits? 4 text).map fun (n, rest) => ((n : Int), rest)

/-- Takes a mark, after blanks, from the start of a text. -/
def readMark? (mark : Char) (text : List Char) : Option (List Char) :=
  match trimStart text with
  | c :: rest => if c = mark then some rest else none
  | [] => none

/-- Takes a fraction of a second, in nanoseconds, from the start of a text.
Digits after the ninth are left out. -/
def readFraction? : List Char → Option (Nat × List Char)
  | '.' :: rest =>
    let digits := rest.takeWhile Char.isDigit
    if digits = [] then none
    else
      let nine := digits.take 9
      some (Nat.ofDigitChars 10 nine 0 * Nat.pow 10 (9 - nine.length),
        rest.dropWhile Char.isDigit)
  | text => some (0, text)

/-! ## Reading -/

/-- The date-time with the given date and time of day, if there is one. Second 60
is a leap second. -/
def ofFields? (date : Civil) (hour minute second nano : Nat) : Option DateTime :=
  if fits : date.Exists ∧ -96465292 ≤ date.dayNumber ∧ date.dayNumber ≤ 95026236 ∧
      hour < 24 ∧ minute < 60 ∧ second ≤ 60 ∧ nano < 1_000_000_000 then
    if leap : second = 60 then
      some {
        day := date.dayNumber
        second := hour * 3600 + minute * 60 + 59
        nano := nano + 1_000_000_000
        day_ge := fits.2.1
        day_le := fits.2.2.1
        second_lt := by omega
        nano_lt := by omega
        leap_last := fun _ => by omega }
    else
      some {
        day := date.dayNumber
        second := hour * 3600 + minute * 60 + second
        nano := nano
        day_ge := fits.2.1
        day_le := fits.2.2.1
        second_lt := by omega
        nano_lt := by omega
        leap_last := fun leap => by omega }
  else none

def ofText? (text : List Char) : Option DateTime := do
  let (year, text) ← readYear? text
  let text ← readMark? '-' text
  let (month, text) ← readField? text
  let text ← readMark? '-' text
  let (day, text) ← readField? text
  let text ← readMark? 'T' text
  let (hour, text) ← readField? text
  let text ← readMark? ':' text
  let (minute, text) ← readField? text
  let text ← readMark? ':' text
  let (second, text) ← readField? text
  let (nano, text) ← readFraction? text
  if trimStart text = [] then ofFields? ⟨year, month, day⟩ hour minute second nano else none

/-! ## JSON -/

def toJson (t : DateTime) : Json :=
  .string t.text

def ofJson? (value : Json) : Option DateTime := do
  let text ← value.string?
  ofText? text.toList

end TableBooking.DateTime
