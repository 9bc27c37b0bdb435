import TableBooking.Text.Digits

/-!
# Log entries

An entry has a level, a target, at most one message and named fields. A field keeps
whether its value was a text, which a log line puts in quotation marks, or something
whose shown form is written as it is.
-/

namespace TableBooking

/-- The level of a log entry, the most important first. -/
inductive Level where
  | error
  | warn
  | info
  | debug
  | trace
  deriving DecidableEq, Repr

namespace Level

def all : List Level :=
  [error, warn, info, debug, trace]

def name : Level → String
  | error => "ERROR"
  | warn => "WARN"
  | info => "INFO"
  | debug => "DEBUG"
  | trace => "TRACE"

/-- How much has to be let through for the level to be let through. -/
def verbosity : Level → Nat
  | error => 1
  | warn => 2
  | info => 3
  | debug => 4
  | trace => 5

end Level

/-- The value of a field of a log entry. -/
inductive LogValue where
  | text (value : String)
  | shown (form : String)
  | number (value : Int)
  deriving DecidableEq, Repr

/-- An entry of a log. -/
structure LogEntry where
  level : Level
  target : String
  message : Option String
  fields : List (String × LogValue)
  deriving DecidableEq, Repr

/-- The names under which an entry holds something: its message and its fields. -/
def LogEntry.names (entry : LogEntry) : List String :=
  (if entry.message.isSome then ["message"] else []) ++ entry.fields.map fun field => field.1

end TableBooking
