import TableBooking.Pattern.Reader
import TableBooking.Text.Digits
import TableBooking.Text.LetterCase

/-!
# Values of fields in log filters

A log filter may ask for a value of a field, by a number or by a pattern. No entry is
compared with such a value, but a filter is well formed only if its values are.
-/

namespace TableBooking.FieldValue

open TableBooking.Text

def isPattern (text : List Char) : Bool :=
  (Pattern.ofText? text).any Pattern.isUsable

/-- Is the text a decimal number without sign, with or without a point and an
exponent? -/
def isDecimal (text : List Char) : Bool :=
  let rest := text.dropWhile Char.isDigit
  let (fraction, rest) :=
    match rest with
    | '.' :: rest => (rest.takeWhile Char.isDigit, rest.dropWhile Char.isDigit)
    | rest => ([], rest)
  let isExponent :=
    match rest with
    | [] => true
    | mark :: exponent => (mark == 'e' || mark == 'E') && (integer? exponent).isSome
  !(text.takeWhile Char.isDigit ++ fraction).isEmpty && isExponent

def isPositiveNumber : List Char → Bool
  | '+' :: text =>
    isDecimal text || sameLetters text ['i', 'n', 'f'] || sameLetters text ['n', 'a', 'n'] ||
      sameLetters text ['i', 'n', 'f', 'i', 'n', 'i', 't', 'y']
  | _ => false

/-- May a filter ask for the text as the value of a field? Numbers without a plus sign
are patterns already. -/
def isWellFormed (text : List Char) : Bool :=
  isPattern text || isPositiveNumber text

end TableBooking.FieldValue
