import TableBooking.Settings
import TableBooking.Text.Numeral

/-!
# Settings read from variables

Each setting is what its own variable gives, or its default (`ofVariables_exact`). A number is
given by a text that spells an integer within its bounds; all other texts count as none. So no
setting depends on the variable of another one, and settings are read back from the variables
that show them, unless the name of their log directory is empty.
-/

namespace TableBooking

/-- A setting that is a number. -/
inductive NumberSetting where
  | minLeadMinutes
  | maxAdvanceDays
  | minGuests
  | maxGuests
  deriving DecidableEq

namespace NumberSetting

def variableName : NumberSetting → String
  | minLeadMinutes => "BOOKING_MIN_LEAD_MINUTES"
  | maxAdvanceDays => "BOOKING_MAX_ADVANCE_DAYS"
  | minGuests => "BOOKING_MIN_GUESTS"
  | maxGuests => "BOOKING_MAX_GUESTS"

def least : NumberSetting → Int
  | minLeadMinutes => -9_223_372_036_854_775_808
  | maxAdvanceDays => -9_223_372_036_854_775_808
  | minGuests => -2_147_483_648
  | maxGuests => -2_147_483_648

def greatest : NumberSetting → Int
  | minLeadMinutes => 9_223_372_036_854_775_807
  | maxAdvanceDays => 9_223_372_036_854_775_807
  | minGuests => 2_147_483_647
  | maxGuests => 2_147_483_647

def default : NumberSetting → Int
  | minLeadMinutes => 30
  | maxAdvanceDays => 30
  | minGuests => 1
  | maxGuests => 100

/-- Does a text spell an integer that the setting can be? -/
def Accepts (setting : NumberSetting) (text : String) (i : Int) : Prop :=
  Text.Spells text.toList i ∧ setting.least ≤ i ∧ i ≤ setting.greatest

/-- Does the variable of the setting give no number for it? -/
def Unread (setting : NumberSetting) (lookup : String → Option String) : Prop :=
  ∀ text i, lookup setting.variableName = some text → ¬ setting.Accepts text i

end NumberSetting

namespace Settings

def number (settings : Settings) : NumberSetting → Int
  | .minLeadMinutes => settings.minLeadMinutes.toInt
  | .maxAdvanceDays => settings.maxAdvanceDays.toInt
  | .minGuests => settings.minGuests.toInt
  | .maxGuests => settings.maxGuests.toInt

/-- Is each setting what its variable gives, or its default? -/
structure GivenBy (settings : Settings) (lookup : String → Option String) : Prop where
  environment : settings.environment = (lookup "ENVIRONMENT").getD "development"
  logLevel : settings.logLevel = (lookup "LOG_LEVEL").getD "info"
  logDirectory : ∀ directory, settings.logDirectory = some directory ↔
    lookup "LOG_DIR" = some directory ∧ directory ≠ ""
  read : ∀ (setting : NumberSetting) text i, lookup setting.variableName = some text →
    setting.Accepts text i → settings.number setting = i
  unread : ∀ setting : NumberSetting, setting.Unread lookup →
    settings.number setting = setting.default

/-- The variables that show the settings, with the numbers in decimal digits. -/
def shown (settings : Settings) : String → Option String
  | "ENVIRONMENT" => some settings.environment
  | "LOG_LEVEL" => some settings.logLevel
  | "LOG_DIR" => settings.logDirectory
  | "BOOKING_MIN_LEAD_MINUTES" => some (Text.ofInt settings.minLeadMinutes.toInt)
  | "BOOKING_MAX_ADVANCE_DAYS" => some (Text.ofInt settings.maxAdvanceDays.toInt)
  | "BOOKING_MIN_GUESTS" => some (Text.ofInt settings.minGuests.toInt)
  | "BOOKING_MAX_GUESTS" => some (Text.ofInt settings.maxGuests.toInt)
  | _ => none

end Settings

/-! ## Numbers -/

section Numbers

variable {α : Type} {value : α → Int}

/-- A text is read as a number of some width if it spells an integer of that width. -/
theorem map_bind_integer?_eq_some_iff
    {fit? : Int → Option α} {least greatest : Int}
    (fits : ∀ i j, (fit? i).map value = some j ↔ i = j ∧ least ≤ j ∧ j ≤ greatest)
    (text : String) (i : Int) :
    ((Text.integer? text.toList).bind fit?).map value = some i ↔
      Text.Spells text.toList i ∧ least ≤ i ∧ i ≤ greatest := by
  rw [← Text.integer?_eq_some_iff]
  cases Text.integer? text.toList with
  | none => exact iff_of_false nofun fun missing => nomatch missing.1
  | some spelled => rw [Option.bind_some, fits, Option.some.injEq]

theorem apply_getD_bind
    (value : α → Int) (parse : String → Option α) (given : Option String) (default : α) :
    value ((given.bind parse).getD default) =
      (given.bind fun text => (parse text).map value).getD (value default) := by
  cases given with
  | none => rfl
  | some text => rw [Option.bind_some, Option.bind_some, Option.getD_map]

end Numbers

namespace NumberSetting

/-- The number that a text gives for the setting. -/
def read? : NumberSetting → String → Option Int
  | minLeadMinutes, text => (Settings.int64? text).map Int64.toInt
  | maxAdvanceDays, text => (Settings.int64? text).map Int64.toInt
  | minGuests, text => (Settings.int32? text).map Int32.toInt
  | maxGuests, text => (Settings.int32? text).map Int32.toInt

theorem read?_eq_some_iff
    (setting : NumberSetting) (text : String) (i : Int) :
    setting.read? text = some i ↔ setting.Accepts text i := by
  cases setting with
  | minLeadMinutes =>
      exact map_bind_integer?_eq_some_iff map_toInt_int64OfInt?_eq_some_iff text i
  | maxAdvanceDays =>
      exact map_bind_integer?_eq_some_iff map_toInt_int64OfInt?_eq_some_iff text i
  | minGuests =>
      exact map_bind_integer?_eq_some_iff map_toInt_int32OfInt?_eq_some_iff text i
  | maxGuests =>
      exact map_bind_integer?_eq_some_iff map_toInt_int32OfInt?_eq_some_iff text i

theorem bind_read?_of_unread
    {setting : NumberSetting} {lookup : String → Option String}
    (unread : setting.Unread lookup) :
    (lookup setting.variableName).bind setting.read? = none := by
  rw [Option.bind_eq_none_iff]
  intro text given
  cases found : setting.read? text with
  | none => rfl
  | some i => exact absurd ((setting.read?_eq_some_iff text i).1 found) (unread text i given)

end NumberSetting

namespace Settings

theorem number_ofVariables
    (lookup : String → Option String) (setting : NumberSetting) :
    (ofVariables lookup).number setting =
      ((lookup setting.variableName).bind setting.read?).getD setting.default := by
  cases setting with
  | minLeadMinutes => exact apply_getD_bind Int64.toInt int64? _ 30
  | maxAdvanceDays => exact apply_getD_bind Int64.toInt int64? _ 30
  | minGuests => exact apply_getD_bind Int32.toInt int32? _ 1
  | maxGuests => exact apply_getD_bind Int32.toInt int32? _ 100

/-! ## Exactly what the variables give -/

theorem givenBy_ofVariables
    (lookup : String → Option String) :
    (ofVariables lookup).GivenBy lookup where
  environment := rfl
  logLevel := rfl
  logDirectory := by
    intro directory
    change (lookup "LOG_DIR").filter (fun directory => directory != "") = _ ↔ _
    rw [Option.filter_eq_some_iff, bne_iff_ne]
  read := by
    intro setting text i given accepts
    rw [number_ofVariables, given, Option.bind_some,
      (setting.read?_eq_some_iff text i).2 accepts, Option.getD_some]
  unread := by
    intro setting unread
    rw [number_ofVariables, NumberSetting.bind_read?_of_unread unread, Option.getD_none]

theorem ext_number
    {a b : Settings}
    (environment : a.environment = b.environment)
    (logLevel : a.logLevel = b.logLevel)
    (logDirectory : a.logDirectory = b.logDirectory)
    (numbers : ∀ setting, a.number setting = b.number setting) :
    a = b := by
  cases a
  cases b
  rw [mk.injEq]
  exact ⟨environment, logLevel, logDirectory,
    Int64.toInt_inj.1 (numbers .minLeadMinutes), Int64.toInt_inj.1 (numbers .maxAdvanceDays),
    Int32.toInt_inj.1 (numbers .minGuests), Int32.toInt_inj.1 (numbers .maxGuests)⟩

theorem eq_of_givenBy
    {a b : Settings} {lookup : String → Option String}
    (left : a.GivenBy lookup)
    (right : b.GivenBy lookup) :
    a = b := by
  refine ext_number ?_ ?_ ?_ ?_
  · rw [left.environment, right.environment]
  · rw [left.logLevel, right.logLevel]
  · apply Option.ext
    intro directory
    rw [left.logDirectory, right.logDirectory]
  · intro setting
    -- the variable gives one number for the setting, or none, and that decides both
    by_cases unread : setting.Unread lookup
    · rw [left.unread setting unread, right.unread setting unread]
    · simp only [NumberSetting.Unread, Classical.not_forall, Classical.not_not] at unread
      obtain ⟨text, i, given, accepts⟩ := unread
      rw [left.read setting text i given accepts, right.read setting text i given accepts]

/-! ## Shown settings -/

theorem shown_variableName
    (settings : Settings) (setting : NumberSetting) :
    settings.shown setting.variableName = some (Text.ofInt (settings.number setting)) := by
  cases setting <;> rfl

theorem number_bounds
    (settings : Settings) (setting : NumberSetting) :
    setting.least ≤ settings.number setting ∧ settings.number setting ≤ setting.greatest := by
  cases setting with
  | minLeadMinutes =>
      exact ⟨Int64.le_toInt _, Int.le_of_lt_add_one (Int64.toInt_lt _)⟩
  | maxAdvanceDays =>
      exact ⟨Int64.le_toInt _, Int.le_of_lt_add_one (Int64.toInt_lt _)⟩
  | minGuests => exact ⟨Int32.le_toInt _, Int.le_of_lt_add_one (Int32.toInt_lt _)⟩
  | maxGuests => exact ⟨Int32.le_toInt _, Int.le_of_lt_add_one (Int32.toInt_lt _)⟩

theorem givenBy_shown
    {settings : Settings}
    (named : settings.logDirectory ≠ some "") :
    settings.GivenBy settings.shown where
  environment := rfl
  logLevel := rfl
  logDirectory := by
    intro directory
    change settings.logDirectory = some directory ↔ settings.logDirectory = some directory ∧ _
    rw [iff_self_and]
    rintro held rfl
    exact named held
  read := by
    intro setting text i given accepts
    rw [shown_variableName, Option.some.injEq] at given
    subst given
    have isRead := (Text.integer?_eq_some_iff ..).2 accepts.1
    rw [Text.ofInt, String.toList_ofList, Text.integer?_intDigits] at isRead
    exact Option.some.inj isRead
  unread := by
    intro setting unread
    have spells : Text.Spells (Text.ofInt (settings.number setting)).toList
        (settings.number setting) := by
      rw [← Text.integer?_eq_some_iff, Text.ofInt, String.toList_ofList,
        Text.integer?_intDigits]
    exact absurd ⟨spells, settings.number_bounds setting⟩
      (unread _ _ (settings.shown_variableName setting))

/-- The settings that are read from variables are those that the variables give. A setting
stays the same if all other variables change, and a number also if its variable changes but
gives no number before and after. Settings are read back from the variables that show them,
unless the name of their log directory is empty. -/
theorem ofVariables_exact :
    (∀ (lookup : String → Option String) (settings : Settings),
      settings.GivenBy lookup ↔ settings = ofVariables lookup) ∧
    (∀ lookup other : String → Option String,
      (lookup "ENVIRONMENT" = other "ENVIRONMENT" →
        (ofVariables lookup).environment = (ofVariables other).environment) ∧
      (lookup "LOG_LEVEL" = other "LOG_LEVEL" →
        (ofVariables lookup).logLevel = (ofVariables other).logLevel) ∧
      (lookup "LOG_DIR" = other "LOG_DIR" →
        (ofVariables lookup).logDirectory = (ofVariables other).logDirectory) ∧
      ∀ setting : NumberSetting,
        lookup setting.variableName = other setting.variableName ∨
            setting.Unread lookup ∧ setting.Unread other →
          (ofVariables lookup).number setting = (ofVariables other).number setting) ∧
    ∀ settings : Settings, settings.logDirectory ≠ some "" →
      ofVariables settings.shown = settings := by
  refine ⟨?_, ?_, ?_⟩
  · intro lookup settings
    constructor
    · intro given
      exact eq_of_givenBy given (givenBy_ofVariables lookup)
    · rintro rfl
      exact givenBy_ofVariables lookup
  · intro lookup other
    refine ⟨fun same => ?_, fun same => ?_, fun same => ?_, ?_⟩
    · exact congrArg (Option.getD · "development") same
    · exact congrArg (Option.getD · "info") same
    · exact congrArg (Option.filter fun directory => directory != "") same
    · rintro setting (same | ⟨unread, unreadOther⟩)
      · rw [number_ofVariables, number_ofVariables, same]
      · rw [(givenBy_ofVariables lookup).unread setting unread,
          (givenBy_ofVariables other).unread setting unreadOther]
  · intro settings named
    exact eq_of_givenBy (givenBy_ofVariables settings.shown) (givenBy_shown named)

/-- The numbers of 32 bits end here. -/
example :
    (ofVariables fun _ => some "-2147483648").minGuests = Int32.minValue ∧
      (ofVariables fun _ => some "2147483648").minGuests = 1 :=
  ⟨rfl, rfl⟩

end Settings

end TableBooking
