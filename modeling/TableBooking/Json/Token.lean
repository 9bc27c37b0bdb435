import TableBooking.Json.Number
import TableBooking.Json.Quoted

/-!
# Tokens of JSON text

The scanner reads one character at a time and holds the part of a token that it
has seen. A number and a word end before the first character that cannot belong
to them; what they have collected by then has to be a token as a whole. A string is
kept as it is written.
-/

namespace TableBooking.Json

/-- A token of JSON text. -/
inductive Token where
  | leftBrace
  | rightBrace
  | leftBracket
  | rightBracket
  | comma
  | colon
  | null
  | bool (value : Bool)
  | number (value : Number)
  /-- A string: what stands between its quotation marks. -/
  | string (quoted : List Char)
  deriving DecidableEq, Repr

/-- What the scanner has seen of the current token, the last character first. -/
inductive Scanner where
  | between
  | inNumber (seen : List Char)
  | inWord (seen : List Char)
  | inString (seen : List Char)
  | inEscape (seen : List Char)
  deriving DecidableEq, Repr

namespace Token

def ofMark? : Char → Option Token
  | '{' => some .leftBrace
  | '}' => some .rightBrace
  | '[' => some .leftBracket
  | ']' => some .rightBracket
  | ',' => some .comma
  | ':' => some .colon
  | _ => none

def ofWord? : List Char → Option Token
  | ['n', 'u', 'l', 'l'] => some .null
  | ['t', 'r', 'u', 'e'] => some (.bool true)
  | ['f', 'a', 'l', 's', 'e'] => some (.bool false)
  | _ => none

end Token

namespace Scanner

def isSpace (c : Char) : Bool :=
  c == ' ' || c == '\t' || c == '\n' || c == '\r'

def isNumberChar (c : Char) : Bool :=
  c.isDigit || c == '-' || c == '+' || c == '.' || c == 'e' || c == 'E'

def startsNumber (c : Char) : Bool :=
  c.isDigit || c == '-'

def start? (c : Char) : Option (List Token × Scanner) :=
  if isSpace c then some ([], .between)
  else if c = '"' then some ([], .inString [])
  else if startsNumber c then some ([], .inNumber [c])
  else if c.isAlpha then some ([], .inWord [c])
  else (Token.ofMark? c).map fun token => ([token], .between)

def number? (seen : List Char) : Option Token :=
  (Number.ofText? seen.reverse).map .number

def word? (seen : List Char) : Option Token :=
  Token.ofWord? seen.reverse

def string? (seen : List Char) : Option Token :=
  if Quoted.isQuoted seen.reverse then some (.string seen.reverse) else none

/-- Gives out a finished token before those that the next character brings. -/
def finishThen (token : Option Token) (next : Option (List Token × Scanner)) :
    Option (List Token × Scanner) := do
  let token ← token
  let (tokens, scanner) ← next
  return (token :: tokens, scanner)

/-- Reads one character: the tokens that it completes and the scanner after it. -/
def step? : Scanner → Char → Option (List Token × Scanner)
  | .between, c => start? c
  | .inNumber seen, c =>
    if isNumberChar c then some ([], .inNumber (c :: seen))
    else finishThen (number? seen) (start? c)
  | .inWord seen, c =>
    if c.isAlpha then some ([], .inWord (c :: seen))
    else finishThen (word? seen) (start? c)
  | .inString seen, c =>
    if c = '"' then (string? seen).map fun token => ([token], .between)
    else if c = '\\' then some ([], .inEscape (c :: seen))
    else some ([], .inString (c :: seen))
  | .inEscape seen, c => some ([], .inString (c :: seen))

/-- The tokens that the end of the text completes. -/
def finish? : Scanner → Option (List Token)
  | .between => some []
  | .inNumber seen => (number? seen).map fun token => [token]
  | .inWord seen => (word? seen).map fun token => [token]
  | .inString _ => none
  | .inEscape _ => none

def scan? : Scanner → List Char → Option (List Token)
  | scanner, [] => scanner.finish?
  | scanner, c :: rest =>
    match scanner.step? c with
    | none => none
    | some (tokens, scanner) => (scan? scanner rest).map (tokens ++ ·)

end Scanner

def Token.ofText? (text : List Char) : Option (List Token) :=
  Scanner.scan? .between text

end TableBooking.Json
