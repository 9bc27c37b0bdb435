import TableBooking.Pattern.CharSet

/-!
# Patterns

A pattern is a regular expression as it is written. Whether it matches a text is never
asked here, but only some patterns can be used: those that are not nested too deep and
whose parts are supported in the mode that they stand in.
-/

namespace TableBooking

namespace Pattern

/-- What the parentheses of a group are for. -/
inductive GroupKind where
  | numbered
  | named (name : List Char)
  /-- Flags for what stands in the group. -/
  | flagged (change : FlagChange)
  deriving DecidableEq, Repr

def GroupKind.change : GroupKind → FlagChange
  | .flagged change => change
  | _ => .nothing

end Pattern

/-- A pattern. -/
inductive Pattern where
  | empty
  /-- A change of flags for what comes after it. -/
  | flags (change : Pattern.FlagChange)
  /-- A character. One that is given by its code of two digits may be a byte. -/
  | char (c : Char) (isCode : Bool)
  | anyChar
  /-- The start or the end of a line or of the text. -/
  | anchor (mark : Char)
  /-- A place where a word starts or ends, or where none does. -/
  | wordEdge (mark : Char)
  /-- One character of a set. -/
  | oneOf (chars : Pattern.CharSet)
  | repetition (sign : Char) (inner : Pattern)
  | group (kind : Pattern.GroupKind) (inner : Pattern)
  | sequence (parts : List Pattern)
  | alternation (parts : List Pattern)

namespace Pattern

def ofSequence : List Pattern → Pattern
  | [] => .empty
  | [part] => part
  | parts => .sequence parts

def ofAlternatives : List Pattern → Pattern
  | [part] => part
  | parts => .alternation parts

def isRepeatable : Pattern → Bool
  | .flags _ => false
  | _ => true

/-! ## Nesting -/

mutual

/-- The greatest number of parts with parts of their own around a place in a pattern. -/
def depth : Pattern → Nat
  | .oneOf chars => chars.depth
  | .repetition _ inner => depth inner + 1
  | .group _ inner => depth inner + 1
  | .sequence parts => partsDepth parts + 1
  | .alternation parts => partsDepth parts + 1
  | _ => 0

/-- The greatest depth of the parts of a sequence or an alternation. -/
def partsDepth : List Pattern → Nat
  | [] => 0
  | part :: rest => max (depth part) (partsDepth rest)

end

/-- The greatest depth of a pattern that can be used. -/
def maxDepth : Nat := 250

/-! ## Support -/

/-- Is a character supported? Without tables its other case is unknown, and a byte beyond
ASCII is no character. -/
def supportsChar (mode : Mode) (c : Char) (isCode : Bool) : Bool :=
  if mode.unicode then !mode.caseless else !isCode || c.toNat < 0x80

mutual

/-- The mode after a pattern that starts in a mode, if all its parts are supported. A
change of flags ends with the group around it. -/
def modeAfter? (mode : Mode) : Pattern → Option Mode
  | .empty => some mode
  | .flags change => some (mode.after change)
  | .char c isCode => if supportsChar mode c isCode then some mode else none
  | .anyChar => if mode.unicode then some mode else none
  | .anchor _ => some mode
  | .wordEdge _ => if mode.unicode then none else some mode
  | .oneOf chars => if chars.isSupported mode then some mode else none
  | .repetition _ inner => modeAfter? mode inner
  | .group kind inner => (modeAfter? (mode.after kind.change) inner).map fun _ => mode
  | .sequence parts => modeAfterParts? mode parts
  | .alternation parts => modeAfterParts? mode parts

/-- The mode after the parts of a sequence or an alternation. -/
def modeAfterParts? (mode : Mode) : List Pattern → Option Mode
  | [] => some mode
  | part :: rest => do
    let mode ← modeAfter? mode part
    modeAfterParts? mode rest

end

def isUsable (pattern : Pattern) : Bool :=
  pattern.depth ≤ maxDepth && (modeAfter? .start pattern).isSome

end Pattern

end TableBooking
