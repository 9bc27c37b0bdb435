import TableBooking.Failure.Report
import TableBooking.Rules

/-!
# Settings

The settings of the booking service come from variables, each of which has a
default. A number that cannot be read falls back to the default. Rules are made of
the settings only if these are consistent.
-/

namespace TableBooking

/-- The settings of the booking service. -/
structure Settings where
  environment : String
  logLevel : String
  logDirectory : Option String
  minLeadMinutes : Int64
  maxAdvanceDays : Int64
  minGuests : Int32
  maxGuests : Int32
  deriving DecidableEq

/-- The greatest number of days of the booking window. -/
def Settings.maxWindowDays : Int := 3650

/-- Why settings make no booking rules. -/
inductive SettingsFault where
  /-- The lead or the window is negative. -/
  | windowNegative
  /-- The window is longer than the limit. -/
  | windowTooLong
  /-- The lead is no duration. -/
  | leadOutOfRange
  /-- The window is no duration. -/
  | windowOutOfRange
  /-- The lead is longer than the window. -/
  | leadExceedsWindow
  /-- No party is large enough and small enough. -/
  | guestRange (min max : Int32)
  deriving DecidableEq

namespace SettingsFault

def message : SettingsFault → String
  | windowNegative => "Booking window must not be negative"
  | windowTooLong =>
    "BOOKING_MAX_ADVANCE_DAYS must not exceed " ++ Text.ofInt Settings.maxWindowDays
  | leadOutOfRange => "BOOKING_MIN_LEAD_MINUTES is out of range"
  | windowOutOfRange => "BOOKING_MAX_ADVANCE_DAYS is out of range"
  | leadExceedsWindow => "BOOKING_MIN_LEAD_MINUTES exceeds BOOKING_MAX_ADVANCE_DAYS"
  | guestRange min max =>
    "Invalid guest range " ++ Text.ofInt min.toInt ++ "..=" ++ Text.ofInt max.toInt

def report (fault : SettingsFault) : ErrorReport :=
  .config fault.message

end SettingsFault

namespace Settings

/-! ## Variables -/

def variableNames : List String :=
  ["ENVIRONMENT", "LOG_LEVEL", "LOG_DIR", "BOOKING_MIN_LEAD_MINUTES",
    "BOOKING_MAX_ADVANCE_DAYS", "BOOKING_MIN_GUESTS", "BOOKING_MAX_GUESTS"]

/-- The signed 64-bit number that a text stands for. -/
def int64? (text : String) : Option Int64 :=
  (Text.integer? text.toList).bind int64OfInt?

/-- The signed 32-bit number that a text stands for. -/
def int32? (text : String) : Option Int32 :=
  (Text.integer? text.toList).bind int32OfInt?

/-- The settings that the variables give. An empty name of a log directory is
none. -/
def ofVariables (lookup : String → Option String) : Settings where
  environment := (lookup "ENVIRONMENT").getD "development"
  logLevel := (lookup "LOG_LEVEL").getD "info"
  logDirectory := (lookup "LOG_DIR").filter fun directory => directory != ""
  minLeadMinutes := ((lookup "BOOKING_MIN_LEAD_MINUTES").bind int64?).getD 30
  maxAdvanceDays := ((lookup "BOOKING_MAX_ADVANCE_DAYS").bind int64?).getD 30
  minGuests := ((lookup "BOOKING_MIN_GUESTS").bind int32?).getD 1
  maxGuests := ((lookup "BOOKING_MAX_GUESTS").bind int32?).getD 100

def standard : Settings :=
  ofVariables fun _ => none

instance : Inhabited Settings := ⟨standard⟩

/-! ## What the settings say -/

def isProduction (settings : Settings) : Bool :=
  settings.environment == "production"

def isDevelopment (settings : Settings) : Bool :=
  settings.environment == "development"

def durationOr (fault : SettingsFault) : Option Duration → Except SettingsFault Duration
  | some duration => .ok duration
  | none => .error fault

def rules (settings : Settings) : Except SettingsFault Rules := do
  if settings.minLeadMinutes.toInt < 0 ∨ settings.maxAdvanceDays.toInt < 0 then
    throw .windowNegative
  if maxWindowDays < settings.maxAdvanceDays.toInt then throw .windowTooLong
  let minLead ←
    durationOr .leadOutOfRange (Duration.ofMinutes? settings.minLeadMinutes.toInt)
  let maxAdvance ←
    durationOr .windowOutOfRange (Duration.ofDays? settings.maxAdvanceDays.toInt)
  if maxAdvance.nanoseconds < minLead.nanoseconds then throw .leadExceedsWindow
  if settings.minGuests < 1 ∨ settings.maxGuests < settings.minGuests then
    throw (.guestRange settings.minGuests settings.maxGuests)
  return ⟨minLead, maxAdvance, settings.minGuests, settings.maxGuests⟩

end Settings

end TableBooking
