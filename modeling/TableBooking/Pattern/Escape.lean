import TableBooking.Pattern.Spacing
import TableBooking.Text.Hex

/-!
# Escapes in patterns

What a backslash and the characters after it stand for. References to groups and
categories of characters are not supported.
-/

namespace TableBooking.Pattern

open TableBooking.Text

/-- What an escape stands for. -/
inductive Escape where
  /-- A character, which may be given by its code of two digits. -/
  | char (c : Char) (isCode : Bool)
  | shorthand (negated : Bool) (letter : Char)
  | anchor (mark : Char)
  | wordEdge (mark : Char)
  deriving DecidableEq, Repr

namespace Escape

/-- Reads a number of hexadecimal digits, which spacing may stand before, onto a value. -/
def readCode? (spaced : Bool) : Nat → Nat → List Char → Option (Nat × List Char)
  | 0, value, text => some (value, text)
  | digits + 1, value, text =>
    match next spaced text with
    | [] => none
    | c :: rest => do
      let digit ← hexValue? c
      readCode? spaced digits (value * 16 + digit.val) rest

/-- Reads the character with a code of a number of digits. -/
def readChar? (spaced : Bool) (digits : Nat) (text : List Char) :
    Option (Escape × List Char) := do
  let (value, rest) ← readCode? spaced digits 0 text
  if value.isValidChar then some (.char (Char.ofNat value) (digits == 2), rest) else none

/-- What a letter after a backslash stands for. Other characters of ASCII stand for
themselves. -/
def ofChar? (c : Char) : Option Escape :=
  if ['d', 's', 'w'].contains c then some (.shorthand false c)
  else if ['D', 'S', 'W'].contains c then some (.shorthand true c)
  else if ['A', 'z'].contains c then some (.anchor c)
  else if ['b', 'B', '<', '>'].contains c then some (.wordEdge c)
  else
    match c with
    | 'a' => some (.char '\x07' false)
    | 'f' => some (.char '\x0c' false)
    | 't' => some (.char '\t' false)
    | 'n' => some (.char '\n' false)
    | 'r' => some (.char '\r' false)
    | 'v' => some (.char '\x0b' false)
    | c => if c.toNat < 0x80 ∧ !c.isAlphanum then some (.char c false) else none

def read? (spaced : Bool) : List Char → Option (Escape × List Char)
  | [] => none
  | 'x' :: rest => readChar? spaced 2 rest
  | 'u' :: rest => readChar? spaced 4 rest
  | 'U' :: rest => readChar? spaced 8 rest
  | c :: rest => (ofChar? c).map (·, rest)

end Escape

end TableBooking.Pattern
