/-!
# Places

A place is a directory that there may be, and a path leads from the root or from the
working directory to a place. The way up ends at the root, so that a path with enough
steps up leads to the root from everywhere. Which places are directories is up to the
host.
-/

namespace TableBooking

/-- A place, by the names on the way to it from the root. -/
abbrev Place := List String

namespace Place

/-- The place around all others. -/
def root : Place := []

/-- A directory in the one for temporary files. It is not known by name, so it has a name
here that is never followed to it. -/
def temporary : Place := ["tmp", "."]

/-- The place around a place. The root is in itself. -/
def around (place : Place) : Place := place.dropLast

def follow (place : Place) (name : String) : Place :=
  if name = "" ∨ name = "." then place
  else if name = ".." then around place
  else place ++ [name]

/-- All places that some names lead through from a place. -/
def along (place : Place) : List String → List Place
  | [] => [place]
  | name :: rest => place :: along (follow place name) rest

/-! ## Paths -/

def pathNames (path : String) : List String :=
  (path.toList.splitOn '/').map String.ofList

/-- The place that a path starts from on a host with a working directory. -/
def origin (working : Place) (path : String) : Place :=
  if path.toList.head? = some '/' then root else working

/-- The places that a path leads through, whether they are directories or not. -/
def through (working : Place) (path : String) : List Place :=
  along (origin working path) (pathNames path)

/-! ## Directories -/

/-- Is the place a directory on a host that has some directories? Each directory is in
one, up to the root. -/
def isDirectory (directories : List Place) (place : Place) : Bool :=
  directories.any place.isPrefixOf

def enter? (directories : List Place) (place : Place) (name : String) : Option Place :=
  let target := follow place name
  if isDirectory directories target then some target else none

/-- The greatest number of bytes in a path that leads anywhere. -/
def maxPathBytes : Nat := 4095

/-- The directory that a path leads to. The empty path leads nowhere, nor does one that
is too long. -/
def directory? (working : Place) (directories : List Place) (path : String) : Option Place :=
  if path = "" ∨ maxPathBytes < path.utf8ByteSize then none
  else (pathNames path).foldlM (enter? directories) (origin working path)

end Place

end TableBooking
