import FeedSieve.Log
import FeedSieve.Output.Calendar
import FeedSieve.Product
import FeedSieve.Settings.Error
import FeedSieve.Text.Case
import FeedSieve.Value

/-!
# The settings of the service

The settings with their defaults, and how they are read from a table. A value that is not of the type of
its setting is converted: any value has a text, a text may spell a number, and a truth value counts as 1
or 0. The form of the log is looked at first; then the settings are read in the order of the structure.
-/
namespace FeedSieve.Settings

inductive LogForm where
  | console
  | json
  deriving DecidableEq, Repr

def LogForm.name : LogForm → String
  | .console => "console"
  | .json => "json"

structure Config where
  host : String
  port : Int
  logLevel : String
  logForm : LogForm
  timeout : Text.Binary64
  agent : String
  prodid : String
  deriving DecidableEq, Repr

/-- The settings where nothing is set. -/
def defaults : Config where
  host := "127.0.0.1"
  port := 8080
  logLevel := "INFO"
  logForm := .console
  timeout := Text.Binary64.ofInt 30
  agent := Product.name ++ "/" ++ Product.version
  prodid := Output.defaultProdid

def Config.address (c : Config) : String := printAddress c.host c.port

/-- The address, unless its port is too long to be written. -/
def Config.address? (c : Config) : Option String := (Value.integerText? c.port).map fun _ => c.address

/-! ## Conversions -/

def textOf (v : Value) : Except Error String :=
  match v.display? with
  | some s => .ok s
  | none => .error (.refused (.value .unprintable))

def integerOf (v : Value) : Except Error Int :=
  match v with
  | .boolean b => .ok (if b then 1 else 0)
  | .integer n => .ok n
  | .real .nan => .error (.refused (.value .nan))
  | .real (.infinite _) => .error (.breakdown .infinite)
  | .real x => .ok (x.truncate?.getD 0)
  | .text s =>
    match Text.Number.int? s with
    | .ok n => .ok n
    | .error .malformed => .error (.refused (.value (.notInteger s)))
    | .error (.tooLong digits) => .error (.refused (.value (.tooManyDigits digits)))
  | v => .error (.refused (.value (.noInteger v.kind)))

/-- The real number of an integer, unless it is too large. -/
def realOfInt (n : Int) : Except Error Text.Binary64 :=
  match Text.Binary64.ofInt n with
  | .infinite _ => .error (.breakdown .tooLarge)
  | x => .ok x

def realOf (v : Value) : Except Error Text.Binary64 :=
  match v with
  | .boolean b => realOfInt (if b then 1 else 0)
  | .integer n => realOfInt n
  | .real x => .ok x
  | .text s =>
    match Text.Binary64.ofText? s with
    | some x => .ok x
    | none => .error (.refused (.value (.notReal s)))
  | v => .error (.refused (.value (.noReal v.kind)))

def logFormOf (v : Value) : Except Error LogForm :=
  match v with
  | .text "console" => .ok .console
  | .text "json" => .ok .json
  | v =>
    match v.shown? with
    | some shown => .error (.refused (.logForm shown))
    | none => .error (.breakdown .unprintable)

/-! ## Reading a table -/

/-- A group of settings, empty if it is absent. -/
def groupOf (data : List (String × Value)) (name : String) : Value :=
  (Value.entry? data name).getD (.table [])

def settingOf (group : Value) (name : String) : Except Error (Option Value) :=
  match group with
  | .table entries => .ok (Value.entry? entries name)
  | v => .error (.breakdown (.notATable v.kind))

/-- A setting of a group that is converted if it is there. -/
def convert {α : Type} (read : Value → Except Error α) (fallback : α) (group : Value) (name : String) :
    Except Error α := do
  match ← settingOf group name with
  | some v => read v
  | none => return fallback

def Config.ofTable (data : List (String × Value)) : Except Error Config := do
  let server := groupOf data "Server"
  let logging := groupOf data "Logging"
  let fetching := groupOf data "Upstream"
  let logForm ← convert logFormOf defaults.logForm logging "format"
  let host ← convert textOf defaults.host server "host"
  let port ← convert integerOf defaults.port server "port"
  let logLevel ← convert textOf defaults.logLevel logging "level"
  let timeout ← convert realOf defaults.timeout fetching "timeout"
  let agent ← convert textOf defaults.agent fetching "user_agent"
  let prodid ← convert textOf defaults.prodid (groupOf data "General") "prodid"
  return ⟨host, port, Text.Case.upper logLevel, logForm, timeout, agent, prodid⟩

end FeedSieve.Settings
