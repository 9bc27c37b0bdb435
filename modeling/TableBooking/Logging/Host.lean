import TableBooking.DotFile
import TableBooking.Logging.Filter
import TableBooking.Logging.Line
import TableBooking.Logging.Place
import TableBooking.Settings

/-!
# The host of the service

What the service finds around it and leaves behind: variables, a file of variables,
directories in which files can be made, the logger and the lines that were logged, on
standard output or in a file in a directory. The first logger that is installed stays. An entry that is
logged before is lost.
-/

namespace TableBooking

/-- Where entries are logged, and which. -/
structure Logger where
  filter : LogFilter
  /-- The directory of the log file; without one, lines go to standard output. -/
  directory : Option Place

/-- The lines of a log file. -/
structure LogFile where
  directory : Place
  lines : List String

/-- What is around the service. -/
structure Host where
  environment : Environment
  dotFile : Option String
  /-- The directory that relative paths start from. -/
  working : Place
  directories : List Place
  logger : Option Logger
  output : List String
  files : List LogFile

namespace Host

/-- The host before anything is set up. Its directories are the working directory, those
at some paths and those around them. -/
def start (environment : Environment) (dotFile : Option String) (paths : List String)
    (working : Place := .temporary) : Host where
  environment := environment
  dotFile := dotFile
  working := working
  directories := working :: paths.flatMap (Place.through working)
  logger := none
  output := []
  files := []

/-- The directory that a path leads to on the host. -/
def directory? (host : Host) (path : String) : Option Place :=
  Place.directory? host.working host.directories path

/-! ## Logging -/

/-- The name of a log file up to its date. -/
def logFileName : String := "booking-core"

/-- Appends lines to the log file in a directory. -/
def appendLines (directory : Place) (lines : List String) (files : List LogFile) :
    List LogFile :=
  files.map fun file =>
    if file.directory = directory then { file with lines := file.lines ++ lines } else file

def log (host : Host) (entry : LogEntry) : Host :=
  match host.logger with
  | none => host
  | some logger =>
    if logger.filter.admits entry then
      match logger.directory with
      | none => { host with output := host.output ++ entry.lines }
      | some directory => { host with files := appendLines directory entry.lines host.files }
    else host

/-- Makes sure that there is a log file in a directory. -/
def openFile (host : Host) (directory : Place) : Host :=
  if host.files.any fun file => file.directory == directory then host
  else { host with files := host.files ++ [⟨directory, []⟩] }

/-- The log files in the directory that a path leads to. -/
def filesIn (host : Host) (path : String) : List LogFile :=
  match host.directory? path with
  | none => []
  | some directory => host.files.filter fun file => file.directory == directory

/-- Installs a logger, unless there is one. Tells whether it is installed. -/
def install (host : Host) (logger : Logger) : Bool × Host :=
  match host.logger with
  | none => (true, { host with logger := some logger })
  | some _ => (false, host)

/-- The level where none is given. -/
def defaultLevel : String := "info"

/-- The filter for a level. A well-formed filter among the variables wins over the
level. -/
def filter (host : Host) (level : Option String) : LogFilter :=
  ((host.environment.lookup "RUST_LOG").bind LogFilter.ofText?).getD
    (LogFilter.ofText (level.getD defaultLevel))

/-- The entry about a log directory that does not exist. -/
def missingDirectory (path : String) : LogEntry where
  level := .warn
  target := "booking_core::utils::logger"
  message := some "Log directory does not exist, logging to stdout"
  fields := [("log_dir", .shown path)]

/-- Installs a logger for a level, unless there is one. Its lines go to a file in the
directory, or to standard output if none is given or there is no such directory. Tells
whether the logger is installed. -/
def initLogger (host : Host) (level path : Option String) : Bool × Host :=
  let filter := host.filter level
  match path with
  | none => host.install ⟨filter, none⟩
  | some path =>
    match host.directory? path with
    | some directory => (host.openFile directory).install ⟨filter, some directory⟩
    | none =>
      let (installed, host) := host.install ⟨filter, none⟩
      (installed, host.log (missingDirectory path))

/-! ## Setting up -/

/-- The entry about the settings of a service that is ready. -/
def environmentReady (settings : Settings) : LogEntry where
  level := .info
  target := "booking_core"
  message := some "Environment ready"
  fields := [
    ("environment", .shown settings.environment),
    ("log_dir", .shown (Text.printedOption settings.logDirectory))]

/-- Reads the file of variables and the settings, and starts logging. -/
def setup (host : Host) : Settings × Host :=
  let host :=
    match host.dotFile with
    | none => host
    | some text => { host with environment := DotFile.load host.environment text }
  let settings := Settings.ofVariables fun name => host.environment.lookup name
  let (_, host) := host.initLogger (some settings.logLevel) settings.logDirectory
  (settings, host.log (environmentReady settings))

end Host

end TableBooking
