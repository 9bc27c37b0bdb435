import TableBooking.Json.Basic
import TableBooking.Text.Digits

/-!
# The text of a number

A number is a minus sign or none, a whole part without leading zeros, at most
one fraction of at least one digit, and at most one exponent of at least one
digit with a sign or none.
-/

namespace TableBooking.Json.Number

open TableBooking.Text

/-! ## Writing -/

def fractionChar (digit : Fin 10) : Char :=
  Nat.digitChar digit

/-- The point and the digits after it, if there are any. -/
def fractionText : List (Fin 10) → List Char
  | [] => []
  | digits => '.' :: digits.map fractionChar

/-- The mark `e` and the exponent, if there is one. -/
def exponentText : Option Int → List Char
  | none => []
  | some exponent => 'e' :: intDigits exponent

def text (n : Number) : List Char :=
  (if n.negative then ['-'] else []) ++ Nat.toDigits 10 n.whole ++
    fractionText n.fraction ++ exponentText n.exponent

/-! ## Reading -/

def readSign : List Char → Bool × List Char
  | '-' :: rest => (true, rest)
  | text => (false, text)

/-- Takes the whole part from the start of a text. -/
def readWhole? (text : List Char) : Option (Nat × List Char) :=
  let digits := text.takeWhile Char.isDigit
  let rest := text.dropWhile Char.isDigit
  match digits with
  | '0' :: _ :: _ => none
  | digits => (natural? digits).map fun whole => (whole, rest)

/-- Takes the point and the fraction, if there is a point, from the start of a
text. -/
def readFraction? : List Char → Option (List (Fin 10) × List Char)
  | '.' :: rest =>
    match rest.takeWhile Char.isDigit with
    | [] => none
    | digits =>
      some (digits.map digitValue, rest.dropWhile Char.isDigit)
  | text => some ([], text)

def readExponent? : List Char → Option (Option Int)
  | [] => some none
  | mark :: rest => if mark = 'e' ∨ mark = 'E' then (Text.integer? rest).map some else none

def ofText? (text : List Char) : Option Number := do
  let (negative, text) := readSign text
  let (whole, text) ← readWhole? text
  let (fraction, text) ← readFraction? text
  let exponent ← readExponent? text
  return ⟨negative, whole, fraction, exponent⟩

end TableBooking.Json.Number
