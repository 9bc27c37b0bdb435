import TableBooking.Pattern.CharSet
import TableBooking.Pattern.Escape

/-!
# Sets in brackets

The reader keeps the brackets that it is inside of. A closing bracket that comes first
stands for itself, as do hyphens that come first and those that end no range.
-/

namespace TableBooking.Pattern

/-- What has been read inside a pair of brackets. -/
structure OpenBrackets where
  negated : Bool
  /-- What stands before the last operation. -/
  left : Option (CharSet × SetOperation)
  /-- The parts after it, the last one first. -/
  parts : List CharSet

namespace OpenBrackets

def inner (brackets : OpenBrackets) : CharSet :=
  let right := CharSet.ofParts brackets.parts.reverse
  match brackets.left with
  | none => right
  | some (left, operation) => .combined operation left right

def push (brackets : OpenBrackets) (part : CharSet) : OpenBrackets :=
  { brackets with parts := part :: brackets.parts }

/-- Adds an operation. Operations apply from left to right. -/
def pushOperation (brackets : OpenBrackets) (operation : SetOperation) : OpenBrackets :=
  { brackets with left := some (brackets.inner, operation), parts := [] }

def close (brackets : OpenBrackets) : CharSet :=
  .brackets brackets.negated brackets.inner

end OpenBrackets

/-- What has been read of a set in brackets. -/
structure SetReader where
  current : OpenBrackets
  /-- The brackets around, the innermost first. -/
  outer : List OpenBrackets
  /-- Have only hyphens been read since the last opening bracket? -/
  atStart : Bool

namespace SetReader

/-! ## Parts -/

/-- The names of the classes of ASCII characters. -/
def classNames : List String :=
  ["alnum", "alpha", "ascii", "blank", "cntrl", "digit", "graph", "lower", "print", "punct",
    "space", "upper", "word", "xdigit"]

/-- Reads the name of a class with its colons and what comes up to its closing bracket. -/
def readNamed? (text : List Char) : Option (CharSet × List Char) :=
  match text with
  | ':' :: text =>
    let negated := text.head? == some '^'
    let text := if negated then text.tail else text
    let name := text.takeWhile (· != ':')
    match text.dropWhile (· != ':') with
    | ':' :: ']' :: rest =>
      if classNames.contains (String.ofList name) then some (.named negated name, rest) else none
    | _ => none
  | _ => none

def readItem? (spaced : Bool) : List Char → Option (CharSet × List Char)
  | [] => none
  | '\\' :: rest =>
    match Escape.read? spaced rest with
    | some (.char c _, rest) => some (.char c, rest)
    | some (.shorthand negated letter, rest) => some (.shorthand negated letter, rest)
    | _ => none
  | c :: rest => some (.char c, rest)

/-- The characters from one to another, which has to come after it. -/
def range? : CharSet → CharSet → Option CharSet
  | .char first, .char last => if first ≤ last then some (.range first last) else none
  | _, _ => none

/-- Reads an item or a range. A hyphen before a closing bracket or another hyphen makes
no range. -/
def readPart? (spaced : Bool) (text : List Char) : Option (CharSet × List Char) := do
  let (item, rest) ← readItem? spaced text
  match next spaced rest with
  | '-' :: rest' =>
    if [some ']', some '-'].contains (glance spaced rest') then some (item, '-' :: rest')
    else
      let (last, rest) ← readItem? spaced (next spaced rest')
      let range ← range? item last
      return (range, rest)
  | rest => some (item, rest)

/-! ## Whole sets -/

/-- Goes into brackets, of which the opening one has been read. -/
def enter (spaced : Bool) (outer : List OpenBrackets) (text : List Char) :
    SetReader × List Char :=
  match next spaced text with
  | '^' :: rest => (⟨⟨true, none, []⟩, outer, true⟩, rest)
  | rest => (⟨⟨false, none, []⟩, outer, true⟩, rest)

def push (reader : SetReader) (part : CharSet) : SetReader :=
  { reader with current := reader.current.push part, atStart := false }

def pushOperation (reader : SetReader) (operation : SetOperation) : SetReader :=
  { reader with current := reader.current.pushOperation operation, atStart := false }

/-- Leaves the innermost brackets: the set with the outermost ones, or what is being read
around. -/
def close (reader : SetReader) : CharSet ⊕ SetReader :=
  match reader.outer with
  | [] => .inl reader.current.close
  | around :: outer => .inr ⟨around.push reader.current.close, outer, false⟩

/-- Reads on from a character that does not close brackets. -/
def step? (spaced : Bool) (reader : SetReader) (c : Char) (rest : List Char) :
    Option (SetReader × List Char) :=
  match c, rest with
  | '[', rest =>
    match readNamed? rest with
    | some (part, rest) => some (reader.push part, rest)
    | none => some (enter spaced (reader.current :: reader.outer) rest)
  | '&', '&' :: rest => some (reader.pushOperation .intersection, rest)
  | '-', '-' :: rest => some (reader.pushOperation .difference, rest)
  | '~', '~' :: rest => some (reader.pushOperation .symmetricDifference, rest)
  | c, rest => (readPart? spaced (c :: rest)).map fun (part, rest) => (reader.push part, rest)

/-- Reads on for a number of steps or up to the closing bracket of the set. -/
def readSteps? (spaced : Bool) : Nat → SetReader → List Char → Option (CharSet × List Char)
  | 0, _, _ => none
  | steps + 1, reader, text =>
    match next spaced text with
    | [] => none
    | c :: rest =>
      if reader.atStart && c == '-' then
        readSteps? spaced steps { reader.push (.char c) with atStart := true } rest
      else if c = ']' then
        if reader.atStart && reader.current.parts.isEmpty then
          readSteps? spaced steps (reader.push (.char c)) rest
        else
          match reader.close with
          | .inl chars => some (chars, rest)
          | .inr reader => readSteps? spaced steps reader rest
      else do
        let (reader, rest) ← reader.step? spaced c rest
        readSteps? spaced steps reader rest

/-- Reads a set after its opening bracket. Every step reads a character or more. -/
def read? (spaced : Bool) (text : List Char) : Option (CharSet × List Char) :=
  let (reader, rest) := enter spaced [] text
  readSteps? spaced rest.length reader rest

end SetReader

end TableBooking.Pattern
