import TableBooking.Text.Unseen

/-!
# Texts in quotation marks

A text in quotation marks shows every character that can be seen as itself. The
quotation mark, the backslash and the common control characters have short escapes;
any other character that cannot be seen, or that would join the one before it, is
given by its code point in hexadecimal digits.
-/

namespace TableBooking.Text

def codePoint (c : Char) : List Char :=
  ['\\', 'u', '{'] ++ Nat.toDigits 16 c.toNat ++ ['}']

/-- A character as it stands between quotation marks. -/
def printedChar (c : Char) : List Char :=
  match c with
  | '"' => ['\\', '"']
  | '\\' => ['\\', '\\']
  | '\x00' => ['\\', '0']
  | '\t' => ['\\', 't']
  | '\n' => ['\\', 'n']
  | '\r' => ['\\', 'r']
  | c => if isSeen c then [c] else codePoint c

def printed (text : String) : String :=
  String.ofList ('"' :: text.toList.flatMap printedChar ++ ['"'])

def printedOption : Option String → String
  | none => "None"
  | some text => "Some(" ++ printed text ++ ")"

end TableBooking.Text
