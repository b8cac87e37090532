import FeedSieve.Settings.CommandLine
import FeedSieve.Settings.Load

/-!
# Starting up

The command line names a settings file and overrides what it and the environment say. Start-up ends in
settings to serve with, or in an exit code with what is written to the two outputs. What the command does
then is a list of acts: to serve, it opens the log, tells the listening address, and runs the server.
-/
namespace FeedSieve.Startup

open Settings

/-- How the command is called, on one line. -/
def usage : String :=
  "usage: ical_filter.py [-h] [-c CONFIG] [--host HOST] [--port PORT] [--debug]\n"

def help : String :=
  usage ++ "\nical-filter - normalize and filter iCalendar feeds over HTTP\n\noptions:\n"
    ++ "  -h, --help            show this help message and exit\n"
    ++ "  -c CONFIG, --config CONFIG\n"
    ++ "                        Path to configuration file (default: auto-detect)\n"
    ++ "  --host HOST           Listen address (overrides config)\n"
    ++ "  --port PORT           Listen port (overrides config)\n"
    ++ "  --debug               Enable debug logging\n"

/-- Settings as an example, shown where a file is missing. -/
def exampleSettings : String :=
  "\n[Server]\nhost = \"127.0.0.1\"\nport = 8080\n\n[Logging]\nlevel = \"INFO\"\n"
    ++ "format = \"console\"\n\n[Upstream]\ntimeout = 30\n"

/-- Settings with what the command line overrides. An empty host and the port 0 override nothing. -/
def override (a : CommandLine.Arguments) (c : Config) : Config :=
  let c := match a.host with
    | some host => if host = "" then c else { c with host }
    | none => c
  let c := match a.port with
    | some port => if port = 0 then c else { c with port }
    | none => c
  if a.debug then { c with logLevel := "DEBUG" } else c

/-- The path of the settings file that arguments lead to, if they can be read. -/
def settingsPath? (process : Environment) (arguments : List String) : Option String :=
  match CommandLine.parse arguments with
  | .ok a => some (filePath process a.config)
  | .error _ => none

def configure (look : String → Found) (process : Environment) (a : CommandLine.Arguments) :
    Except Error Config :=
  (Config.load look process process a.config).map (override a)

inductive Outcome where
  | exits (code : Nat) (output errors : String)
  | serves (config : Config) (address : String)
  deriving Repr

/-- Starts up with arguments. A breakdown is passed on, and it is one if there is no address to announce. -/
def start (look : String → Found) (process : Environment) (arguments : List String) :
    Except Breakdown Outcome :=
  match CommandLine.parse arguments with
  | .error .help => .ok (.exits 0 help "")
  | .error (.misuse cause) =>
    .ok (.exits 2 "" (usage ++ "ical_filter.py: error: " ++ cause.message ++ "\n"))
  | .ok a =>
    match configure look process a with
    | .ok c =>
      match c.address? with
      | some address => .ok (.serves c address)
      | none => .error .unprintable
    | .error (.breakdown cause) => .error cause
    | .error (.missing path) =>
      .ok (.exits 1 "" ("Error: " ++ (Error.missing path).message
        ++ "\n\nExample configuration:\n" ++ exampleSettings ++ "\n"))
    | .error (.refused cause) =>
      .ok (.exits 1 "" ("Error loading configuration: " ++ cause.message ++ "\n"))

/-- What the log says when serving starts. -/
def announce (address : String) : Logged Unit :=
  Logged.write .info "starting_up" [("socketaddr", .string address)]

/-- How the server is run: the settings of its application, where it listens, and the level of its own
log. -/
structure Launch where
  settings : Config
  host : String
  port : Int
  logLevel : String
  deriving DecidableEq, Repr

def Launch.ofConfig (c : Config) : Launch := ⟨c, c.host, c.port, Text.Case.lower c.logLevel⟩

/-- What the command does. -/
inductive Act where
  | print (output errors : String)
  | exit (code : Nat)
  | openLog (level : String) (form : LogForm)
  | log (entry : Log.Entry)
  | run (launch : Launch)

/-- What the command does in turn when start-up ends. -/
def Outcome.acts : Outcome → List Act
  | .exits code output errors => [.print output errors, .exit code]
  | .serves c address =>
    .openLog c.logLevel c.logForm :: ((announce address).entries.map .log ++ [.run (.ofConfig c)])

end FeedSieve.Startup
