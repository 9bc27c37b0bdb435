import TableBooking.Pattern.Basic
import TableBooking.Pattern.Brackets
import TableBooking.Text.Alphabetic

/-!
# Reading patterns

A pattern has characters, escapes, sets in brackets and groups in parentheses. The
reader keeps the groups that it is inside of. A repetition sign needs something before
it that it repeats. There is no counted repetition, since no brace is closed in a
pattern.
-/

namespace TableBooking.Pattern

open TableBooking.Text

/-- What has been read inside a group, or outside all groups. -/
structure Level where
  /-- The alternatives before the last bar, the last one first. -/
  alternatives : List Pattern
  /-- The parts after it, the last one first. -/
  parts : List Pattern
  /-- May spacing stand here? -/
  spaced : Bool

namespace Level

def start (spaced : Bool) : Level := ⟨[], [], spaced⟩

def push (level : Level) (part : Pattern) : Level :=
  { level with parts := part :: level.parts }

/-- The parts after the last bar. -/
def sequence (level : Level) : Pattern :=
  ofSequence level.parts.reverse

def pushBar (level : Level) : Level :=
  { level with alternatives := level.sequence :: level.alternatives, parts := [] }

def pattern (level : Level) : Pattern :=
  ofAlternatives (level.sequence :: level.alternatives).reverse

end Level

/-- What has been read of a pattern. -/
structure Reader where
  current : Level
  /-- The groups around with what has been read around each, the innermost first. -/
  outer : List (GroupKind × Level)
  /-- The names of the groups up to here. -/
  names : List (List Char)

namespace Reader

def start : Reader := ⟨.start false, [], []⟩

def push (reader : Reader) (part : Pattern) : Reader :=
  { reader with current := reader.current.push part }

def repeat? (reader : Reader) (sign : Char) : Option Reader :=
  match reader.current.parts with
  | part :: parts =>
    if part.isRepeatable then
      some { reader with current.parts := .repetition sign part :: parts }
    else none
  | [] => none

/-! ## Groups -/

def enter (reader : Reader) (kind : GroupKind) : Reader :=
  let spaced := (kind.change.value? .spaced).getD reader.current.spaced
  { reader with current := .start spaced, outer := (kind, reader.current) :: reader.outer }

def leave? (reader : Reader) : Option Reader :=
  match reader.outer with
  | (kind, around) :: outer =>
    some { reader with current := around.push (.group kind reader.current.pattern), outer := outer }
  | [] => none

def changeFlags (reader : Reader) (change : FlagChange) : Reader :=
  let spaced := (change.value? .spaced).getD reader.current.spaced
  { reader with current := { reader.current.push (.flags change) with spaced := spaced } }

def isName : List Char → Bool
  | [] => false
  | c :: rest =>
    (c == '_' || isAlphabetic c) &&
      rest.all fun c => isAlphanumeric c || ['_', '.', '[', ']'].contains c

/-- Goes into a group with a name that no other group has. -/
def enterNamed? (reader : Reader) (text : List Char) : Option (Reader × List Char) :=
  let name := text.takeWhile (· != '>')
  match text.dropWhile (· != '>') with
  | _ :: rest =>
    if isName name && !reader.names.contains name then
      some ({ reader.enter (.named name) with names := name :: reader.names }, rest)
    else none
  | [] => none

/-- Reads the flags of a group, or flags in parentheses of their own, of which there has
to be one. -/
def readFlags? (reader : Reader) (text : List Char) : Option (Reader × List Char) := do
  let isLetter (c : Char) : Bool := c != ':' && c != ')'
  let letters := text.takeWhile isLetter
  let change ← FlagChange.ofText? letters
  match text.dropWhile isLetter with
  | ':' :: rest => some (reader.enter (.flagged change), rest)
  | ')' :: rest => if letters.isEmpty then none else some (reader.changeFlags change, rest)
  | _ => none

/-- Reads what comes after an opening parenthesis. -/
def readGroup? (reader : Reader) (text : List Char) : Option (Reader × List Char) :=
  match next reader.current.spaced text with
  | '?' :: 'P' :: '<' :: rest => reader.enterNamed? rest
  | '?' :: '<' :: rest => reader.enterNamed? rest
  | '?' :: rest => reader.readFlags? rest
  | rest => some (reader.enter .numbered, rest)

/-! ## Parts -/

def partOfEscape : Escape → Pattern
  | .char c isCode => .char c isCode
  | .shorthand negated letter => .oneOf (.shorthand negated letter)
  | .anchor mark => .anchor mark
  | .wordEdge mark => .wordEdge mark

/-- Reads on from a character. A question mark may follow a repetition sign at once and
belongs to it. -/
def step? (reader : Reader) (c : Char) (rest : List Char) : Option (Reader × List Char) :=
  let spaced := reader.current.spaced
  if c = '(' then reader.readGroup? rest
  else if c = ')' then reader.leave?.map (·, rest)
  else if c = '|' then some ({ reader with current := reader.current.pushBar }, rest)
  else if c = '[' then
    (SetReader.read? spaced rest).map fun (chars, rest) => (reader.push (.oneOf chars), rest)
  else if c = '\\' then
    (Escape.read? spaced rest).map fun (escape, rest) =>
      (reader.push (partOfEscape escape), rest)
  else if ['*', '+', '?'].contains c then
    (reader.repeat? c).map fun reader =>
      (reader, if rest.head? = some '?' then rest.tail else rest)
  else if c = '{' then none
  else if c = '.' then some (reader.push .anyChar, rest)
  else if c = '^' ∨ c = '$' then some (reader.push (.anchor c), rest)
  else some (reader.push (.char c false), rest)

/-- The pattern that has been read when no character is left. -/
def finish? (reader : Reader) : Option Pattern :=
  match reader.outer with
  | [] => some reader.current.pattern
  | _ :: _ => none

/-- Reads on for a number of steps or up to the end of the text. -/
def readSteps? : Nat → Reader → List Char → Option Pattern
  | 0, _, _ => none
  | steps + 1, reader, text =>
    match next reader.current.spaced text with
    | [] => reader.finish?
    | c :: rest => do
      let (reader, rest) ← reader.step? c rest
      readSteps? steps reader rest

end Reader

/-- The pattern that a text makes up. Every step reads a character or more, up to the last
one, which finds the end. -/
def ofText? (text : List Char) : Option Pattern :=
  Reader.readSteps? (text.length + 1) .start text

end TableBooking.Pattern
