import TableBooking.Json.Number
import TableBooking.Json.Quoted

/-!
# JSON documents

A document is what a text says before its strings are read. All of it has to be written
correctly, but only the parts that somebody asks for have to stand for a value: a string
with half of a surrogate pair stands for none.
-/

namespace TableBooking.Json

/-- A document. Its strings and names are kept as they stand between their quotation
marks. -/
inductive Document where
  | null
  | bool (value : Bool)
  | number (value : Number)
  | string (quoted : List Char)
  | array (elements : List Document)
  | object (members : List (List Char × Document))

namespace Document

mutual

/-- The value that a document stands for, if all its strings stand for texts. -/
def value? : Document → Option Json
  | .null => some .null
  | .bool value => some (.bool value)
  | .number n => some (.number n)
  | .string quoted => (Quoted.text? quoted).map .string
  | .array elements => (elementValues? elements).map .array
  | .object members => (memberValues? members).map .object

def elementValues? : List Document → Option (List Json)
  | [] => some []
  | part :: rest => do
    let value ← value? part
    let values ← elementValues? rest
    return value :: values

/-- The names and values of the members of an object. -/
def memberValues? : List (List Char × Document) → Option (List (String × Json))
  | [] => some []
  | (quoted, part) :: rest => do
    let name ← Quoted.text? quoted
    let value ← value? part
    let members ← memberValues? rest
    return (name, value) :: members

end

end Document

mutual

def document : Json → Document
  | .null => .null
  | .bool value => .bool value
  | .number n => .number n
  | .string text => .string (Quoted.encode text.toList)
  | .array elements => .array (elementDocuments elements)
  | .object members => .object (memberDocuments members)

def elementDocuments : List Json → List Document
  | [] => []
  | value :: rest => document value :: elementDocuments rest

/-- The names and documents of the members of an object. -/
def memberDocuments : List (String × Json) → List (List Char × Document)
  | [] => []
  | (name, value) :: rest =>
    (Quoted.encode name.toList, document value) :: memberDocuments rest

end

end TableBooking.Json
