import TableBooking.Text.Hex

/-!
# Quoted text

The characters between the quotation marks of a JSON string. Writing escapes the
quotation mark, the backslash and the control characters below U+0020, and
nothing else. Reading also takes the escaped slash and any character given by its
UTF-16 units.

A surrogate unit that does not stand in a pair may be written, but stands for no
character. So what is quoted correctly (`isQuoted`) need not have a text (`text?`).
-/

namespace TableBooking.Json.Quoted

open TableBooking.Text

/-! ## Writing -/

/-- The escape of a control character that has no letter of its own. -/
def controlEscape (c : Char) : List Char :=
  ['\\', 'u', '0', '0', hexChar (hexDigit (c.toNat / 16)), hexChar (hexDigit c.toNat)]

/-- A character as it is written between quotation marks. -/
def encodeChar (c : Char) : List Char :=
  match c with
  | '"' => ['\\', '"']
  | '\\' => ['\\', '\\']
  | '\x08' => ['\\', 'b']
  | '\x0c' => ['\\', 'f']
  | '\n' => ['\\', 'n']
  | '\r' => ['\\', 'r']
  | '\t' => ['\\', 't']
  | c => if c.toNat < 0x20 then controlEscape c else [c]

/-- A text as it is written between quotation marks. -/
def encode (text : List Char) : List Char :=
  text.flatMap encodeChar

/-! ## Reading -/

/-- The character that a letter after a backslash stands for. -/
def escaped? : Char → Option Char
  | '"' => some '"'
  | '\\' => some '\\'
  | '/' => some '/'
  | 'b' => some '\x08'
  | 'f' => some '\x0c'
  | 'n' => some '\n'
  | 'r' => some '\r'
  | 't' => some '\t'
  | _ => none

/-- The UTF-16 unit given by four hexadecimal digits. -/
def unit? (a b c d : Char) : Option Nat := do
  let a ← hexValue? a
  let b ← hexValue? b
  let c ← hexValue? c
  let d ← hexValue? d
  return ((a.val * 16 + b.val) * 16 + c.val) * 16 + d.val

def isHighSurrogate (unit : Nat) : Bool :=
  0xD800 ≤ unit && unit < 0xDC00

def isLowSurrogate (unit : Nat) : Bool :=
  0xDC00 ≤ unit && unit < 0xE000

/-- The character that a surrogate pair stands for. -/
def ofSurrogates (high low : Nat) : Char :=
  Char.ofNat (0x10000 + (high - 0xD800) * 0x400 + (low - 0xDC00))

/-- May the characters stand between two quotation marks? Every escape has to be
complete, and quotation marks and control characters have to be escaped. -/
def isQuoted : List Char → Bool
  | [] => true
  | '\\' :: 'u' :: a :: b :: c :: d :: rest => (unit? a b c d).isSome && isQuoted rest
  | '\\' :: c :: rest => (escaped? c).isSome && isQuoted rest
  | c :: rest => c != '\\' && c != '"' && 0x20 ≤ c.toNat && isQuoted rest

/-- The characters that are written between two quotation marks, if all that is written
there stands for characters. -/
def decode : List Char → Option (List Char)
  | [] => some []
  | '\\' :: 'u' :: a :: b :: c :: d :: rest =>
    match unit? a b c d with
    | none => none
    | some high =>
      if isHighSurrogate high then
        match rest with
        | '\\' :: 'u' :: a :: b :: c :: d :: rest =>
          match unit? a b c d with
          | none => none
          | some low =>
            if isLowSurrogate low then (decode rest).map (ofSurrogates high low :: ·) else none
        | _ => none
      else if isLowSurrogate high then none
      else (decode rest).map (Char.ofNat high :: ·)
  | '\\' :: c :: rest =>
    match escaped? c with
    | none => none
    | some character => (decode rest).map (character :: ·)
  | c :: rest =>
    if c = '\\' ∨ c = '"' ∨ c.toNat < 0x20 then none else (decode rest).map (c :: ·)

/-- The text that is written between two quotation marks, if there is one. -/
def text? (quoted : List Char) : Option String :=
  (decode quoted).map String.ofList

end TableBooking.Json.Quoted
