/-!
# Flags of patterns

A group in a pattern may set some flags and clear others for what stands in it. Flags
that are given in parentheses of their own hold for the rest of the group around them.
-/

namespace TableBooking.Pattern

/-- A flag that changes how a pattern is read or what it matches. -/
inductive Flag where
  /-- Upper and lower case match each other. -/
  | caseless
  /-- The anchors of a text are those of its lines. -/
  | multiline
  /-- The dot matches the end of a line too. -/
  | dotMatchesAll
  /-- Repetitions are short unless they are marked. -/
  | swapGreed
  /-- The pattern matches characters and not bytes. -/
  | unicode
  /-- Lines may end with two characters. -/
  | crlf
  /-- Blanks and comments may stand between the parts of the pattern. -/
  | spaced
  deriving DecidableEq, Repr

def Flag.ofLetter? : Char → Option Flag
  | 'i' => some .caseless
  | 'm' => some .multiline
  | 's' => some .dotMatchesAll
  | 'U' => some .swapGreed
  | 'u' => some .unicode
  | 'R' => some .crlf
  | 'x' => some .spaced
  | _ => none

/-- The flags that a group sets and those that it clears. -/
structure FlagChange where
  set : List Flag
  cleared : List Flag
  deriving DecidableEq, Repr

namespace FlagChange

def nothing : FlagChange := ⟨[], []⟩

def value? (change : FlagChange) (flag : Flag) : Option Bool :=
  if change.set.contains flag then some true
  else if change.cleared.contains flag then some false
  else none

def isDistinct : List Flag → Bool
  | [] => true
  | flag :: rest => !rest.contains flag && isDistinct rest

/-- Reads the letters of a change. Those after a hyphen clear their flags, and after the
hyphen there has to be one. -/
def ofText? (text : List Char) : Option FlagChange := do
  let set ← (text.takeWhile (· != '-')).mapM Flag.ofLetter?
  let cleared ← (text.dropWhile (· != '-')).tail.mapM Flag.ofLetter?
  if isDistinct (set ++ cleared) && (!text.contains '-' || !cleared.isEmpty) then
    some ⟨set, cleared⟩
  else none

end FlagChange

/-- The flags that decide whether a part of a pattern is supported. -/
structure Mode where
  caseless : Bool
  unicode : Bool
  deriving DecidableEq, Repr

namespace Mode

/-- The mode at the start of a pattern. -/
def start : Mode := ⟨false, true⟩

def after (mode : Mode) (change : FlagChange) : Mode where
  caseless := (change.value? .caseless).getD mode.caseless
  unicode := (change.value? .unicode).getD mode.unicode

end Mode

end TableBooking.Pattern
