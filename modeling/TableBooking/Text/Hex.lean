/-!
# Hexadecimal digits

Digits are read in either case and written in lower case.
-/

namespace TableBooking.Text

/-- A value as a hexadecimal digit, which keeps the lowest four of its bits. -/
def hexDigit (value : Nat) : Fin 16 :=
  Fin.ofNat 16 value

/-- The value of a hexadecimal digit of either case. -/
def hexValue? (c : Char) : Option (Fin 16) :=
  if '0' ≤ c ∧ c ≤ '9' then some (hexDigit (c.toNat - 48))
  else if 'a' ≤ c ∧ c ≤ 'f' then some (hexDigit (c.toNat - 87))
  else if 'A' ≤ c ∧ c ≤ 'F' then some (hexDigit (c.toNat - 55))
  else none

def hexChar (value : Fin 16) : Char :=
  Nat.digitChar value

theorem hexValue?_hexChar : ∀ value : Fin 16, hexValue? (hexChar value) = some value := by
  decide

end TableBooking.Text
