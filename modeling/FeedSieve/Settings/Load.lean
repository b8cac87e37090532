import FeedSieve.Settings.Config
import FeedSieve.Settings.Files
import FeedSieve.Settings.Toml.Document

/-!
# Loading settings

Settings come from a file, if there is one, and two variables override them. A file that is named must
exist; the file at the usual place need not.
-/
namespace FeedSieve.Settings

structure Environment where
  entries : List (String × String)

/-- The value of a variable, the last one of a name. -/
def Environment.get? (e : Environment) (name : String) : Option String :=
  (e.entries.reverse.find? (·.1 == name)).map (·.2)

/-- The value of a variable that is set and not empty. -/
def Environment.nonEmpty? (e : Environment) (name : String) : Option String :=
  (e.get? name).filter (· ≠ "")

def logLevelVariable : String := "ICAL_FILTER_LOG_LEVEL"

def userDirectory (e : Environment) : String :=
  match e.get? "XDG_CONFIG_HOME" with
  | some directory => directory
  | none =>
    let home := ((e.get? "HOME").getD "").toList.reverse.dropWhile (· = '/')
    String.ofList home.reverse ++ "/.config"

/-- The usual place of the settings file. -/
def defaultPath (e : Environment) : String :=
  joinPath (userDirectory e) (Product.name ++ "/" ++ Product.name ++ ".toml")

def entriesOf (path : String) (content : List UInt8) : Except Error Toml.Entries :=
  match Text.Utf8.decode? content with
  | .error defect => .error (.breakdown (.undecodable defect))
  | .ok text =>
    match Toml.readDocument text with
    | .ok entries => .ok entries
    | .error (.refused message) => .error (.refused (.file path message))
    | .error (.tooManyDigits digits) => .error (.breakdown (.tooManyDigits digits))

/-- The entries of what stands at a path. -/
def entriesAt (look : String → Found) (path : String) : Except Error (Option Toml.Entries) :=
  match look path with
  | .nothing => .ok none
  | .directory => .error (.breakdown (.directory path))
  | .file content => (entriesOf path content).map some

def filePath (process : Environment) : Option String → String
  | some path => tidyPath path
  | none => defaultPath process

def fileEntries (look : String → Found) (process : Environment) (path : Option String) :
    Except Error Toml.Entries := do
  match ← entriesAt look (filePath process path), path with
  | some entries, _ => return entries
  | none, none => return []
  | none, some path => .error (.missing (tidyPath path))

/-- Settings with the listening address that a variable sets. -/
def Config.withAddress (overrides : Environment) (c : Config) : Except Error Config :=
  match overrides.nonEmpty? addressVariable with
  | none => .ok c
  | some value =>
    match parseAddress value with
    | .ok (host, port) => .ok { c with host, port }
    | .error cause => .error (.refused (.address value cause))

def Config.withLogLevel (overrides : Environment) (c : Config) : Config :=
  match overrides.nonEmpty? logLevelVariable with
  | none => c
  | some level => { c with logLevel := Text.Case.upper level }

/-- Loads settings. The usual place of the file depends on the environment of the process, and another
environment may hold the variables that override. -/
def Config.load (look : String → Found) (process overrides : Environment) (path : Option String) :
    Except Error Config := do
  let entries ← fileEntries look process path
  let c ← (← Config.ofTable entries).withAddress overrides
  return c.withLogLevel overrides

end FeedSieve.Settings
