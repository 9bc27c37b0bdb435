import TableBooking.Json.Basic
import TableBooking.Text.Hex
import TableBooking.Text.LetterCase

/-!
# Identities

An identity is 32 hexadecimal digits. It is written in lower case with hyphens
after 8, 12, 16 and 20 digits. It is read in that form with or without braces or
the prefix of its resource name, or as 32 digits without hyphens.
-/

namespace TableBooking

/-- A universally unique identity. -/
@[ext]
structure Uuid where
  digits : List (Fin 16)
  length_digits : digits.length = 32
  deriving DecidableEq

namespace Uuid

open TableBooking.Text

/-! ## Writing -/

def chars (u : Uuid) : List Char :=
  let text := u.digits.map hexChar
  text.take 8 ++ '-' :: (text.drop 8).take 4 ++ '-' :: (text.drop 12).take 4 ++
    '-' :: (text.drop 16).take 4 ++ '-' :: text.drop 20

def text (u : Uuid) : String :=
  String.ofList u.chars

/-! ## Reading -/

def ofDigits? (text : List Char) : Option Uuid := do
  let digits ← text.mapM hexValue?
  if length : digits.length = 32 then some ⟨digits, length⟩ else none

/-- Reads hexadecimal digits with hyphens after 8, 12, 16 and 20 of them. -/
def ofHyphenated? (text : List Char) : Option Uuid :=
  if text.length = 36 ∧ text[8]? = some '-' ∧ text[13]? = some '-' ∧
      text[18]? = some '-' ∧ text[23]? = some '-' then
    ofDigits?
      (text.take 8 ++ (text.drop 9).take 4 ++ (text.drop 14).take 4 ++
        (text.drop 19).take 4 ++ text.drop 24)
  else none

/-- The prefix of the resource name of an identity. -/
def resourceName : List Char :=
  ['u', 'r', 'n', ':', 'u', 'u', 'i', 'd', ':']

def ofText? (text : List Char) : Option Uuid :=
  if text.length = 32 then ofDigits? text
  else if text.length = 36 then ofHyphenated? text
  else if text.length = 38 then
    if text.head? = some '{' ∧ text.getLast? = some '}' then
      ofHyphenated? (text.drop 1).dropLast
    else none
  else if sameLetters (text.take 9) resourceName then ofHyphenated? (text.drop 9)
  else none

/-! ## JSON -/

def toJson (u : Uuid) : Json :=
  .string u.text

def ofJson? (value : Json) : Option Uuid := do
  let text ← value.string?
  ofText? text.toList

end Uuid

end TableBooking
