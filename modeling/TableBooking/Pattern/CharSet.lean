import TableBooking.Pattern.Flag

/-!
# Sets of characters in patterns

A set is given by a letter after a backslash or in brackets, where sets can be put
together by operations. There are no tables of letters: a set that depends on the case
or the category of characters beyond ASCII is not supported.
-/

namespace TableBooking.Pattern

/-- An operation on two sets. -/
inductive SetOperation where
  | intersection
  | difference
  | symmetricDifference
  deriving DecidableEq, Repr

/-- A set of characters, as it is written. -/
inductive CharSet where
  | nothing
  | char (c : Char)
  /-- The characters from one to another. -/
  | range (first last : Char)
  /-- A class of ASCII characters or all others. -/
  | named (negated : Bool) (name : List Char)
  /-- The digits, the blanks or the characters of words, or all others. -/
  | shorthand (negated : Bool) (letter : Char)
  | union (parts : List CharSet)
  | combined (operation : SetOperation) (left right : CharSet)
  /-- What stands in brackets, or all else. -/
  | brackets (negated : Bool) (inner : CharSet)

namespace CharSet

/-- The set that has the characters of all the parts. -/
def ofParts : List CharSet → CharSet
  | [] => .nothing
  | [part] => part
  | parts => .union parts

/-! ## Nesting -/

mutual

/-- The greatest number of brackets, operations and unions around a place in a set. -/
def depth : CharSet → Nat
  | .union parts => partsDepth parts + 1
  | .combined _ left right => max (depth left) (depth right) + 1
  | .brackets _ inner => depth inner + 1
  | _ => 0

def partsDepth : List CharSet → Nat
  | [] => 0
  | part :: rest => max (depth part) (partsDepth rest)

end

/-! ## Support -/

/-- Is a character or a range supported that reaches up to a character? Without tables
its other case is unknown. A set of bytes has no characters beyond ASCII. -/
def supportsUpTo (mode : Mode) (last : Char) : Bool :=
  if mode.unicode then !mode.caseless else last.toNat < 0x80

mutual

/-- Is the set supported in a mode? A set of bytes cannot be negated, since its bytes
would not make up characters. -/
def isSupported (mode : Mode) : CharSet → Bool
  | .nothing => true
  | .char c => supportsUpTo mode c
  | .range _ last => supportsUpTo mode last
  | .named negated _ => if mode.unicode then !mode.caseless else !negated
  | .shorthand negated _ => !mode.unicode && !negated
  | .union parts => areSupported mode parts
  | .combined _ left right => isSupported mode left && isSupported mode right
  | .brackets negated inner => (mode.unicode || !negated) && isSupported mode inner

def areSupported (mode : Mode) : List CharSet → Bool
  | [] => true
  | part :: rest => isSupported mode part && areSupported mode rest

end

end CharSet

end TableBooking.Pattern
