import FeedSieve.Log
import FeedSieve.Log.Template
import FeedSieve.Settings.Config
import FeedSieve.Text.Case

/-!
# Writing the log

A writer has a form and a threshold, and lets entries pass that are at least as serious. In the form of
JSON an entry becomes one object with its logger and its level beside its fields.
-/
namespace FeedSieve.Log

def Level.weight : Level → Nat
  | .debug => 10
  | .info => 20
  | .warning => 30
  | .error => 40
  | .critical => 50

/-- The level that a method of a logger writes at. -/
def Level.ofMethod? : String → Option Level
  | "debug" => some .debug
  | "info" => some .info
  | "warning" => some .warning
  | "warn" => some .warning
  | "error" => some .error
  | "exception" => some .error
  | "critical" => some .critical
  | "fatal" => some .critical
  | _ => none

/-- The thresholds with a name. -/
def thresholds : List (String × Nat) := [("NOTSET", 0), ("DEBUG", 10), ("INFO", 20), ("WARN", 30),
  ("WARNING", 30), ("ERROR", 40), ("FATAL", 50), ("CRITICAL", 50)]

/-- The logger of access, which is off. -/
def accessLogger : String := "uvicorn.access"

structure Writer where
  form : Settings.LogForm
  threshold : Nat
  deriving DecidableEq, Repr

/-- Why there is no writer: the name of the threshold stands for a text that names none, or for a thing that is
shown here. -/
inductive ThresholdError where
  | text (content : String)
  | thing (shown : String)
  deriving DecidableEq, Repr

def ThresholdError.message : ThresholdError → String
  | .text content => "Unknown level: " ++ Text.Quoted.quote content
  | .thing shown => "Level not an integer or a valid string: " ++ shown

/-- The names that the names of thresholds are kept with. -/
def foreignNames : List (String × ThresholdError) := [
  ("BASIC_FORMAT", .text "%(levelname)s:%(name)s:%(message)s"),
  ("_STYLES", .thing ("\x7b'%': (<class 'logging.PercentStyle'>, '%(levelname)s:%(name)s:%(message)s'), "
    ++ "'\x7b': (<class 'logging.StrFormatStyle'>, '\x7blevelname\x7d:\x7bname\x7d:\x7bmessage\x7d'), "
    ++ "'$': (<class 'logging.StringTemplateStyle'>, '$\x7blevelname\x7d:$\x7bname\x7d:$\x7bmessage\x7d')\x7d"))]

/-- The writer for the name of a threshold, in any case. A name that says nothing means `INFO`. -/
def Writer.open (name : String) (form : Settings.LogForm) : Except ThresholdError Writer :=
  let name := Text.Case.upper name
  match foreignNames.find? (·.1 == name) with
  | some (_, e) => .error e
  | none => .ok ⟨form, ((thresholds.find? (·.1 == name)).map (·.2)).getD 20⟩

def Writer.passes (w : Writer) (logger : String) (level : Level) : Bool :=
  logger != accessLogger && w.threshold ≤ level.weight

structure Message where
  logger : String
  level : Level
  event : String
  values : List Value
  fields : List (String × Text.Json)
  deriving Repr

def shownLogger (name : String) : String := if name = "" then "root" else name

/-- Whether a field says something. -/
def isTruthy : Text.Json → Bool
  | .null => false
  | .bool b => b
  | .number digits => digits.toInt? != some 0
  | .string s => s != ""
  | .array items => !items.isEmpty
  | .object fields => !fields.isEmpty

/-- The fields that the writer sets itself or takes out. -/
def reserved : List String :=
  ["event", "logger", "level", "timestamp", "exc_info", "stack_info"]

/-- The record of a message, but for its time. Values fill the event, which is otherwise left alone. A
message that asks for the exception at hand is told that there is none. -/
def record (m : Message) : Except Template.Misfit Text.Json := do
  let event ← if m.values.isEmpty then pure m.event else Template.fill m.event m.values
  let kept := m.fields.filter fun f => !reserved.contains f.1
  let raised := m.fields.any fun f => f.1 == "exc_info" && isTruthy f.2
  return .object (kept ++ [("event", .string event), ("logger", .string (shownLogger m.logger)),
    ("level", .string m.level.name)] ++ (if raised then [("exception", .string "MISSING")] else []))

/-- The records of the messages that pass. The first one that cannot be filled stops the rest. -/
def Writer.records (w : Writer) (messages : List Message) : Except Template.Misfit (List Text.Json) :=
  (messages.filter fun m => w.passes m.logger m.level).mapM record

/-- The text of a value in a line for people. -/
def shownField : Text.Json → String
  | .string s => s
  | v => v.render

/-- The line that is written for an entry of a logger, if it passes. -/
def Writer.line? (w : Writer) (logger : String) (e : Entry) : Option String :=
  if !w.passes logger e.level then none
  else match w.form with
    | .json => (record ⟨logger, e.level, e.event, [], e.fields⟩).toOption.map Text.Json.render
    | .console =>
      let fields := e.fields.map fun f => " " ++ f.1 ++ "=" ++ shownField f.2
      some (e.level.name ++ ": " ++ e.event ++ String.join fields)

end FeedSieve.Log
