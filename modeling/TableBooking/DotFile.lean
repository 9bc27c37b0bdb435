import TableBooking.Text.Alphanumeric
import TableBooking.Text.Blank
import TableBooking.Text.Lines

/-!
# Files of variables

Each line of a file of variables assigns a text to a name, as `NAME=text` with or
without the word `export` before it. Blank lines and lines that start with `#` assign
nothing. The text may have parts in single or double quotation marks, backslash
escapes, and names of variables after a dollar sign, which stand for their values.

Reading stops at the first line that is malformed; the assignments before it hold. A
variable that has a value keeps it.
-/

namespace TableBooking

/-- The variables of a process with their values, the last one that was set first. -/
abbrev Environment := List (String × String)

/-- What a name stands for. A variable and its value are kept as one text with an equals
sign between them, and what comes after the name and an equals sign is found, so that a
name may run on into the value up to some equals sign in it. -/
def Environment.search? (environment : Environment) (name : List Char) : Option (List Char) :=
  match environment.lookup (String.ofList (name.takeWhile (· != '='))) with
  | none => none
  | some text =>
    match name.dropWhile (· != '=') with
    | [] => some text.toList
    | _ :: start =>
      if (start ++ ['=']).isPrefixOf text.toList then some (text.toList.drop (start.length + 1))
      else none

namespace DotFile

open TableBooking.Text

/-! ## The text of an assignment -/

/-- The quotation marks around the place that is being read. -/
inductive Quotes where
  | none
  | single
  | double
  deriving DecidableEq

/-- The name of a variable that is being read. -/
inductive Name where
  | none
  | plain (seen : List Char)
  | braced (seen : List Char)

/-- What has been read of the text of an assignment. -/
structure Value where
  /-- The text so far. -/
  chars : List Char
  quotes : Quotes
  name : Name
  /-- Was the last character an escaping backslash? -/
  escaped : Bool
  /-- Has a blank ended the text? -/
  ended : Bool
  /-- Has a comment begun? -/
  commented : Bool

namespace Value

def start : Value := ⟨[], .none, .none, false, false, false⟩

def push (value : Value) (c : Char) : Value :=
  { value with chars := value.chars ++ [c] }

/-- The text with the value of a variable appended. An unknown variable stands for
nothing. -/
def substitute (environment : Environment) (value : Value) (name : List Char) : Value :=
  let text := (environment.search? name).getD []
  { value with chars := value.chars ++ text, name := .none }

/-- Reads a character after an escaping backslash. -/
def readEscaped? (value : Value) (c : Char) : Option Value :=
  let value := { value with escaped := false }
  if c = 'n' then some (value.push '\n')
  else if c = '\\' ∨ c = '\'' ∨ c = '"' ∨ c = '$' ∨ c = ' ' then some (value.push c)
  else none

def readName (environment : Environment) (value : Value) (seen : List Char)
    (c : Char) : Value :=
  if isAlphanumeric c then { value with name := .plain (seen ++ [c]) }
  else if c = '{' ∧ seen = [] then { value with name := .braced [] }
  else
    let value := value.substitute environment seen
    if c = '$' then { value with name := .plain [] } else value.push c

/-- Reads a character after a dollar sign and an opening brace. -/
def readBraced (environment : Environment) (value : Value) (seen : List Char)
    (c : Char) : Value :=
  if c = '}' then value.substitute environment seen
  else { value with name := .braced (seen ++ [c]) }

/-- Reads a character outside names and single quotation marks. -/
def readPlain (value : Value) (c : Char) : Value :=
  if c = '$' then { value with name := .plain [] }
  else if c = '\\' then { value with escaped := true }
  else if value.quotes = .double then
    if c = '"' then { value with quotes := .none } else value.push c
  else if c = '\'' then { value with quotes := .single }
  else if c = '"' then { value with quotes := .double }
  else if c = ' ' ∨ c = '\t' then { value with ended := true }
  else value.push c

def step? (environment : Environment) (value : Value) (c : Char) : Option Value :=
  if value.commented then some value
  else if value.ended then
    if c = ' ' ∨ c = '\t' then some value
    else if c = '#' then some { value with commented := true }
    else none
  else if value.escaped then value.readEscaped? c
  else if value.quotes = .single then
    some (if c = '\'' then { value with quotes := .none } else value.push c)
  else
    match value.name with
    | .plain seen => some (value.readName environment seen c)
    | .braced seen => some (value.readBraced environment seen c)
    | .none => some (value.readPlain c)

/-- The text that has been read when the line ends. -/
def finish? (environment : Environment) (value : Value) : Option (List Char) :=
  if value.quotes = .none then
    match value.name with
    | .none => some value.chars
    | .plain seen => some (value.substitute environment seen).chars
    | .braced _ => none
  else none

end Value

def value? (environment : Environment) (text : List Char) : Option (List Char) := do
  let value ← text.foldlM (Value.step? environment) .start
  value.finish? environment

/-! ## Lines -/

/-- Takes the name of a variable from the start of a line. -/
def readKey? (line : List Char) : Option (List Char × List Char) :=
  let isKeyChar (c : Char) : Bool := c.isAlphanum || c == '_' || c == '.'
  match line with
  | [] => none
  | c :: _ =>
    if c.isAlpha || c == '_' then some (line.takeWhile isKeyChar, line.dropWhile isKeyChar)
    else none

/-- Takes an equals sign, after blanks, from the start of a line. -/
def readEquals? (line : List Char) : Option (List Char) :=
  match trimStart line with
  | '=' :: rest => some rest
  | _ => none

def line? (environment : Environment) (line : List Char) : Option (Option (String × String)) :=
  match trim line with
  | [] => some none
  | '#' :: _ => some none
  | line => do
    let (key, rest) ← readKey? line
    let (key, rest) ←
      match readEquals? rest with
      | some rest => some (key, rest)
      | none =>
        if key = ['e', 'x', 'p', 'o', 'r', 't'] then do
          let (key, rest) ← readKey? (trimStart rest)
          let rest ← readEquals? rest
          some (key, rest)
        else none
    match trimStart rest with
    | [] => some (some (String.ofList key, ""))
    | '#' :: _ => some (some (String.ofList key, ""))
    | text => do
      let value ← value? environment text
      some (some (String.ofList key, String.ofList value))

def loadLines (environment : Environment) : List (List Char) → Environment
  | [] => environment
  | line :: rest =>
    match line? environment line with
    | none => environment
    | some none => loadLines environment rest
    | some (some (name, text)) =>
      if (environment.lookup name).isSome then loadLines environment rest
      else loadLines ((name, text) :: environment) rest

def load (environment : Environment) (text : String) : Environment :=
  loadLines environment (lines text.toList)

end DotFile

end TableBooking
