import TableBooking.Logging.Entry
import TableBooking.Logging.FieldValue
import TableBooking.Text.Bytes

/-!
# Log filters

A filter is a list of directives. A directive lets entries of a target, or of all
targets, through up to some verbosity, and may ask for a field. Of the directives that
concern an entry the one with the longest target decides; of those, one that asks for a
field, the last name first; of equal ones the last. Where there is none, nothing is let
through.

The text of a filter has commas between the directives. A directive is a verbosity, or a
target, a scope in brackets or both, and then perhaps an equals sign and a verbosity.
The scope has the name of a span, a field in braces or both, and the field may have a
value after an equals sign.
-/

namespace TableBooking

/-- What is let through of a target. -/
structure LogDirective where
  /-- The start of the names of the targets. -/
  target : List Char
  /-- The field that an entry must have. -/
  field : Option String
  /-- Does the directive hold only in a span or for a value of its field? No entry is
  made in a span, and values are asked for only of spans, so it concerns no entry. -/
  inSpan : Bool
  /-- The verbosity up to which entries are let through. -/
  verbosity : Nat
  deriving DecidableEq, Repr

/-- Which entries are let through. -/
structure LogFilter where
  directives : List LogDirective
  deriving DecidableEq, Repr

namespace LogDirective

open TableBooking.Text

/-! ## Deciding -/

/-- Does the directive concern an entry? -/
def concerns (directive : LogDirective) (entry : LogEntry) : Bool :=
  !directive.inSpan && directive.target.isPrefixOf entry.target.toList &&
    directive.field.all fun name => entry.names.contains name

/-- Does the directive decide before another one that comes earlier? -/
def overrides (directive other : LogDirective) : Bool :=
  if directive.target.length = other.target.length then
    match directive.field, other.field with
    | _, none => true
    | none, some _ => false
    | some name, some otherName => otherName ≤ name
  else other.target.length < directive.target.length

/-! ## Reading -/

/-- The verbosity that a text names: a level or `off` in any case of the letters, or
a number from 0 to 5. -/
def verbosity? (text : List Char) : Option Nat :=
  match Level.all.find? fun level => sameLetters level.name.toList text with
  | some level => some level.verbosity
  | none =>
    if sameLetters ['o', 'f', 'f'] text then some 0
    else (unsigned? text).bind fun n => if n ≤ 5 then some n else none

def everything : Nat := Level.trace.verbosity

/-- The directive with the verbosity that is given after its target and scope. Without
an equals sign, or with nothing after it, everything is let through. Blanks may end a
directive that has no equals sign. -/
def withVerbosity? (directive : LogDirective) : List Char → Option LogDirective
  | ['='] => some directive
  | '=' :: text =>
    (verbosity? text).map fun verbosity => { directive with verbosity := verbosity }
  | rest => if rest.all isBlank then some directive else none

/-- The directive that a text without target, scope and equals sign stands for: a
verbosity for all targets, or else everything of the target that it names. -/
def ofWord (text : List Char) : LogDirective :=
  match verbosity? text with
  | some verbosity => ⟨[], none, false, verbosity⟩
  | none => ⟨text, none, false, everything⟩

/-- The directive for a target whose scope is a field with or without a value. -/
def ofField? (target : List Char) (inSpan : Bool) (condition : List Char) :
    Option LogDirective :=
  let name := condition.takeWhile (· != '=')
  if condition = [] then none
  else
    match condition.dropWhile (· != '=') with
    | [] => some ⟨target, some (String.ofList name), inSpan, everything⟩
    | _ :: value =>
      if FieldValue.isWellFormed (value.takeWhile (· != '=')) then
        some ⟨target, some (String.ofList name), true, everything⟩
      else none

/-- The text that is read where a text has a part after what stands before it. Positions
are counted in bytes from the first character that is no blank, but the part is cut out
of the text with its blanks, so that they move it towards the start. -/
def cut? (blanks before part : List Char) : Option (List Char) := do
  let (_, rest) ← splitBytes? (byteLength before) (blanks ++ before ++ part)
  let (taken, _) ← splitBytes? (byteLength part) rest
  return taken

/-- Reads the scope of a directive after its opening bracket: the directive without its
verbosity and what comes after the closing bracket. -/
def readScope? (blanks target text : List Char) : Option (LogDirective × List Char) :=
  let isNameChar (c : Char) : Bool := c != ']' && c != '\x7b'
  let span := text.takeWhile isNameChar
  match text.dropWhile isNameChar with
  | ']' :: rest => some (⟨target, none, true, everything⟩, rest)
  | '\x7b' :: inner =>
    match inner.dropWhile (· != '\x7d') with
    | '\x7d' :: ']' :: rest => do
      let before := target ++ '[' :: span ++ ['\x7b']
      let condition ← cut? blanks before (inner.takeWhile (· != '\x7d'))
      let directive ← ofField? target (span != []) condition
      return (directive, rest)
    | _ => none
  | _ => none

def isStart (c : Char) : Bool :=
  isAlphanumeric c || c == '-' || c == '_' || c == ':' || c == '['

/-- Reads the target and the scope of a directive after the blanks at its start: the
directive without its verbosity and what comes after. -/
def readSubject? (blanks text : List Char) : Option (LogDirective × List Char) :=
  let isTargetChar (c : Char) : Bool := c != '=' && c != '['
  let target := text.takeWhile isTargetChar
  if text.head?.any isStart then
    match text.dropWhile isTargetChar with
    | [] => some (ofWord text, [])
    | '[' :: scope => readScope? blanks target scope
    | rest => some (⟨target, none, false, everything⟩, rest)
  else none

/-- Reads a directive. One that a blank stands before may have no equals sign after its
target and scope, and concerns no entry. -/
def ofText? (text : List Char) : Option LogDirective :=
  if text.head?.any isBlank then
    match readSubject? (text.takeWhile isBlank) (trimStart text) with
    | some (_, rest) => if rest.all isBlank then some ⟨text, none, false, everything⟩ else none
    | none => none
  else
    match readSubject? [] text with
    | some (directive, rest) => directive.withVerbosity? rest
    | none => none

end LogDirective

namespace LogFilter

def decisive? (filter : LogFilter) (entry : LogEntry) : Option LogDirective :=
  filter.directives.foldl
    (fun best? directive =>
      if directive.concerns entry && best?.all directive.overrides then some directive
      else best?)
    none

def admits (filter : LogFilter) (entry : LogEntry) : Bool :=
  match filter.decisive? entry with
  | none => false
  | some directive => entry.level.verbosity ≤ directive.verbosity

/-! ## Reading -/

def pieces (text : String) : List (List Char) :=
  (text.toList.splitOn ',').filter (· != [])

/-- The filter of some directives. Where there are none, errors are let through. -/
def ofDirectives (directives : List LogDirective) : LogFilter :=
  if directives.isEmpty then ⟨[⟨[], none, false, Level.error.verbosity⟩]⟩ else ⟨directives⟩

/-- Reads a filter whose directives are all well formed. -/
def ofText? (text : String) : Option LogFilter :=
  ((pieces text).mapM LogDirective.ofText?).map ofDirectives

/-- Reads the directives of a filter that are well formed. -/
def ofText (text : String) : LogFilter :=
  ofDirectives ((pieces text).filterMap LogDirective.ofText?)

end LogFilter

end TableBooking
