/-!
# Durations

A duration is a whole number of nanoseconds of either sign, at most 2^63 - 1
milliseconds long. Its parts are truncated toward zero.
-/

namespace TableBooking

/-- The length in nanoseconds of the longest duration. -/
def Duration.maxNanoseconds : Int := 9_223_372_036_854_775_807_000_000

/-- A span of time of either sign. -/
@[ext]
structure Duration where
  nanoseconds : Int
  ge_min : -Duration.maxNanoseconds ≤ nanoseconds
  le_max : nanoseconds ≤ Duration.maxNanoseconds
  deriving DecidableEq

namespace Duration

/-- The duration of a number of nanoseconds, unless it is too long. -/
def ofNanoseconds? (nanoseconds : Int) : Option Duration :=
  if fits : -maxNanoseconds ≤ nanoseconds ∧ nanoseconds ≤ maxNanoseconds then
    some ⟨nanoseconds, fits.1, fits.2⟩
  else none

/-- The duration of a number of seconds and of nanoseconds beyond them, unless it is
too long. The nanoseconds are less than a second. -/
def ofSeconds? (seconds : Int) (nanoseconds : Nat) : Option Duration :=
  if nanoseconds < 1_000_000_000 then
    ofNanoseconds? (seconds * 1_000_000_000 + nanoseconds)
  else none

/-- The duration of a number of minutes, unless it is too long. -/
def ofMinutes? (minutes : Int) : Option Duration :=
  ofNanoseconds? (minutes * 60 * 1_000_000_000)

/-- The duration of a number of days, unless it is too long. -/
def ofDays? (days : Int) : Option Duration :=
  ofNanoseconds? (days * 86400 * 1_000_000_000)

def thirtyMinutes : Duration where
  nanoseconds := 30 * 60 * 1_000_000_000
  ge_min := by decide
  le_max := by decide

/-- A month of thirty days. -/
def thirtyDays : Duration where
  nanoseconds := 30 * 86400 * 1_000_000_000
  ge_min := by decide
  le_max := by decide

/-! ## Parts -/

def seconds (d : Duration) : Int :=
  d.nanoseconds.tdiv 1_000_000_000

/-- The nanoseconds beyond the whole seconds, with the sign of the duration. -/
def fraction (d : Duration) : Int :=
  d.nanoseconds.tmod 1_000_000_000

def minutes (d : Duration) : Int :=
  d.seconds.tdiv 60

def days (d : Duration) : Int :=
  d.seconds.tdiv 86400

end Duration

end TableBooking
