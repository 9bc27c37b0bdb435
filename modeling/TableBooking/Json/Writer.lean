import TableBooking.Json.Token

/-!
# Writing JSON text

The text of a value is the text of its tokens, one after the other without spaces. The
members of an object are written in their order.
-/

namespace TableBooking.Json

def Token.chars : Token → List Char
  | leftBrace => ['{']
  | rightBrace => ['}']
  | leftBracket => ['[']
  | rightBracket => [']']
  | comma => [',']
  | colon => [':']
  | null => ['n', 'u', 'l', 'l']
  | bool true => ['t', 'r', 'u', 'e']
  | bool false => ['f', 'a', 'l', 's', 'e']
  | number n => n.text
  | string quoted => '"' :: quoted ++ ['"']

mutual

def tokens : Json → List Token
  | .null => [.null]
  | .bool value => [.bool value]
  | .number n => [.number n]
  | .string text => [.string (Quoted.encode text.toList)]
  | .array [] => [.leftBracket, .rightBracket]
  | .array (value :: rest) =>
    .leftBracket :: tokens value ++ elementTokens rest ++ [.rightBracket]
  | .object [] => [.leftBrace, .rightBrace]
  | .object ((name, value) :: rest) =>
    .leftBrace :: .string (Quoted.encode name.toList) :: .colon :: tokens value ++
      memberTokens rest ++ [.rightBrace]

/-- The tokens of the elements of an array after the first. -/
def elementTokens : List Json → List Token
  | [] => []
  | value :: rest => .comma :: tokens value ++ elementTokens rest

/-- The tokens of the members of an object after the first. -/
def memberTokens : List (String × Json) → List Token
  | [] => []
  | (name, value) :: rest =>
    .comma :: .string (Quoted.encode name.toList) :: .colon :: tokens value ++
      memberTokens rest

end

def write (value : Json) : String :=
  String.ofList (value.tokens.flatMap Token.chars)

end TableBooking.Json
