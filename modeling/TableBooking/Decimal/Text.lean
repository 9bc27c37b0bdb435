import TableBooking.Binary64.Shortest
import TableBooking.Decimal.Basic
import TableBooking.Text.Digits

/-!
# Decimal amounts as text

An amount is written with all its places. It is read from a string, in plain or
scientific notation, or from a number. Plain notation may have an underscore
anywhere after its first digit, and digits beyond what an amount can hold are
rounded away, half away from zero. A zero in plain notation has no sign, but an amount
that scientific notation rounds to zero keeps the sign that it had.
-/

namespace TableBooking.Decimal

open TableBooking.Text

/-! ## Writing -/

/-- The text of an amount: every place of its scale, and at least one digit before
the point. -/
def chars (d : Decimal) : List Char :=
  (if d.negative then ['-'] else []) ++ Nat.toDigits 10 (d.mantissa / Nat.pow 10 d.scale) ++
    (if d.scale = 0 then [] else '.' :: padded d.scale (d.mantissa % Nat.pow 10 d.scale))

def text (d : Decimal) : String :=
  String.ofList d.chars

/-! ## Plain notation -/

/-- What has been read of an amount in plain notation. -/
structure Digits where
  mantissa : Nat
  scale : Nat
  /-- Has the point been read? -/
  pointed : Bool
  /-- Has a digit been read? -/
  started : Bool

namespace Digits

def start : Digits := ⟨0, 0, false, false⟩

/-- Does one more digit exceed the places or the mantissa of an amount? -/
def isFull (read : Digits) (digit : Nat) : Bool :=
  (read.pointed && read.scale == 28) || mantissaBound ≤ read.mantissa * 10 + digit

def push (read : Digits) (digit : Nat) : Digits where
  mantissa := read.mantissa * 10 + digit
  scale := if read.pointed then read.scale + 1 else read.scale
  pointed := read.pointed
  started := true

/-- The amount with the first digit left out rounded into it. When that carries
beyond the mantissa, the last place is given up. -/
def round? (negative : Bool) (read : Digits) (digit : Nat) : Option Decimal :=
  if digit < 5 then ofParts? negative read.mantissa read.scale
  else if read.mantissa + 1 < mantissaBound then ofParts? negative (read.mantissa + 1) read.scale
  else if read.scale = 0 then none
  else ofParts? negative ((read.mantissa + 1 + 4) / 10) (read.scale - 1)

end Digits

/-- May the character stand among the digits that are left out? -/
def isDigitOrSeparator (c : Char) : Bool :=
  c.isDigit || c == '_'

/-- Reads the rest of an amount in plain notation. -/
def readDigits? (negative : Bool) (read : Digits) : List Char → Option Decimal
  | [] => if read.started then ofParts? negative read.mantissa read.scale else none
  | c :: rest =>
    if c.isDigit then
      let digit := (digitValue c).val
      if read.isFull digit then
        if read.pointed ∧ rest.all isDigitOrSeparator then read.round? negative digit else none
      else readDigits? negative (read.push digit) rest
    else if c = '.' ∧ read.pointed = false then
      readDigits? negative { read with pointed := true } rest
    else if c = '_' ∧ read.started then readDigits? negative read rest
    else none

def ofPlain? : List Char → Option Decimal
  | '-' :: rest => readDigits? true .start rest
  | '+' :: rest => readDigits? false .start rest
  | text => readDigits? false .start text

/-! ## Scientific notation -/

/-- Is the character the mark before an exponent? -/
def isExponentMark (c : Char) : Bool :=
  c == 'e' || c == 'E'

/-- Reads an exponent without minus sign, of at most 32 bits. -/
def exponent? (text : List Char) : Option Nat := do
  let n ← unsigned? text
  if n < 4_294_967_296 then some n else none

/-- The natural number nearest to a quotient, a tie going to the larger one. -/
def roundHalfUp (dividend divisor : Nat) : Nat :=
  (2 * dividend + divisor) / (2 * divisor)

/-- The amount with the point moved to the left. Places beyond the last one are
rounded away, and the sign stays. -/
def shiftLeft? (d : Decimal) (places : Nat) : Option Decimal :=
  if 28 < places then none
  else if d.scale + places ≤ 28 then ofSignedParts? d.negative d.mantissa (d.scale + places)
  else
    ofSignedParts? d.negative
      (roundHalfUp d.mantissa (Nat.pow 10 (d.scale + places - 28))) 28

/-- The amount with the point moved to the right, without places once it has passed
the last digit. -/
def shiftRight? (d : Decimal) (places : Nat) : Option Decimal :=
  if places ≤ d.scale then ofParts? d.negative d.mantissa (d.scale - places)
  else if 28 < places then none
  else ofParts? d.negative (d.mantissa * Nat.pow 10 (places - d.scale)) 0

def ofScientific? (text : List Char) : Option Decimal :=
  match text.dropWhile fun c => !isExponentMark c with
  | [] => none
  | _ :: exponent => do
    let base ← ofPlain? (text.takeWhile fun c => !isExponentMark c)
    match exponent with
    | '-' :: digits => shiftLeft? base (← exponent? digits)
    | digits => shiftRight? base (← exponent? digits)

def ofText? (text : List Char) : Option Decimal :=
  match ofPlain? text with
  | some d => some d
  | none => ofScientific? text

/-! ## JSON -/

def toJson (d : Decimal) : Json :=
  .string d.text

/-- Reads a number that is not a 64-bit integer by way of the nearest double. -/
def ofDouble? (n : Json.Number) : Option Decimal := do
  let magnitude ← Binary64.ofNumber? n
  ofPlain? ((if n.negative then ['-'] else []) ++ magnitude.shortest.text)

/-- Reads a number: an integer of 64 bits exactly, any other number by way of the
nearest double. -/
def ofNumber? (n : Json.Number) : Option Decimal :=
  match n.integer? with
  | some i => if IsWord i then ofInt? i else ofDouble? n
  | none => ofDouble? n

/-- The amount that a JSON string or number stands for. -/
def ofJson? : Json → Option Decimal
  | .string text => ofText? text.toList
  | .number n => ofNumber? n
  | _ => none

end TableBooking.Decimal
