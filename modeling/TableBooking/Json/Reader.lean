import TableBooking.Json.Document
import TableBooking.Json.Token

/-!
# Reading JSON text

A text is one document with nothing but spaces around it. The reader takes one token
after another and keeps the containers that it is inside of, so it accepts no
trailing comma and no second document. A value that is read as a whole may be nested up
to `maxNesting`.
-/

namespace TableBooking.Json

/-- A container around the place that is being read, with what has been read of
it, the last element or member first. -/
inductive Frame where
  | array (elements : List Document)
  | object (members : List (List Char × Document)) (name : List Char)

/-- What the reader waits for, within the containers around it. -/
inductive Reader where
  /-- A document. -/
  | expectDocument (outer : List Frame)
  /-- The first element of an array, or its end. -/
  | expectFirstElement (outer : List Frame)
  /-- A comma and a further element of an array, or its end. -/
  | expectNextElement (elements : List Document) (outer : List Frame)
  /-- The first name in an object, or its end. -/
  | expectFirstName (outer : List Frame)
  /-- A name in an object. -/
  | expectName (members : List (List Char × Document)) (outer : List Frame)
  /-- The colon after a name. -/
  | expectColon (members : List (List Char × Document)) (name : List Char)
      (outer : List Frame)
  /-- A comma and a further member of an object, or its end. -/
  | expectNextMember (members : List (List Char × Document)) (outer : List Frame)
  /-- The end of the text. -/
  | finished (document : Document)

namespace Reader

/-- Puts a document that has been read into the container around it. -/
def complete (document : Document) : List Frame → Reader
  | [] => .finished document
  | .array elements :: outer => .expectNextElement (document :: elements) outer
  | .object members name :: outer => .expectNextMember ((name, document) :: members) outer

def start? (outer : List Frame) : Token → Option Reader
  | .null => some (complete .null outer)
  | .bool b => some (complete (.bool b) outer)
  | .number n => some (complete (.number n) outer)
  | .string quoted => some (complete (.string quoted) outer)
  | .leftBracket => some (.expectFirstElement outer)
  | .leftBrace => some (.expectFirstName outer)
  | _ => none

def step? : Reader → Token → Option Reader
  | .expectDocument outer, token => start? outer token
  | .expectFirstElement outer, .rightBracket => some (complete (.array []) outer)
  | .expectFirstElement outer, token => start? (.array [] :: outer) token
  | .expectNextElement elements outer, .rightBracket =>
    some (complete (.array elements.reverse) outer)
  | .expectNextElement elements outer, .comma =>
    some (.expectDocument (.array elements :: outer))
  | .expectFirstName outer, .rightBrace => some (complete (.object []) outer)
  | .expectFirstName outer, .string name => some (.expectColon [] name outer)
  | .expectName members outer, .string name => some (.expectColon members name outer)
  | .expectColon members name outer, .colon =>
    some (.expectDocument (.object members name :: outer))
  | .expectNextMember members outer, .rightBrace =>
    some (complete (.object members.reverse) outer)
  | .expectNextMember members outer, .comma => some (.expectName members outer)
  | _, _ => none

/-- The document that has been read when no token is left. -/
def document? : Reader → Option Document
  | .finished document => some document
  | _ => none

end Reader

namespace Document

def ofTokens? (tokens : List Token) : Option Document := do
  let reader ← tokens.foldlM Reader.step? (.expectDocument [])
  reader.document?

def ofText? (text : String) : Option Document := do
  let tokens ← Token.ofText? text.toList
  ofTokens? tokens

end Document

/-! ## Whole values -/

mutual

/-- The greatest number of containers around a place in a value, itself included. -/
def depth : Json → Nat
  | .array elements => elementDepth elements + 1
  | .object members => memberDepth members + 1
  | _ => 0

/-- The greatest depth of the elements of an array. -/
def elementDepth : List Json → Nat
  | [] => 0
  | value :: rest => max (depth value) (elementDepth rest)

/-- The greatest depth of the members of an object. -/
def memberDepth : List (String × Json) → Nat
  | [] => 0
  | (_, value) :: rest => max (depth value) (memberDepth rest)

end

/-- The greatest depth of a value that is read as a whole. -/
def maxNesting : Nat := 127

/-- The value that a text stands for. -/
def read? (text : String) : Option Json := do
  let document ← Document.ofText? text
  let value ← document.value?
  if value.depth ≤ maxNesting then some value else none

end TableBooking.Json
