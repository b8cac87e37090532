import FeedSieve.Text.Binary64
import FeedSieve.Text.Json
import FeedSieve.Text.Quoted
import FeedSieve.Time.Instant

/-!
# Values

A value of a settings file or of a log entry, of any type that such a file can express. `Value.display?` is
the text of a value, `Value.shown?` the form it has inside a list or a message, where texts are quoted. An
integer of more than 4300 digits has no text.
-/
namespace FeedSieve

structure ClockTime where
  hour : Nat
  minute : Nat
  second : Nat
  microsecond : Nat
  deriving DecidableEq, Repr, Inhabited

inductive Value where
  | nothing
  | boolean (value : Bool)
  | integer (value : Int)
  | real (value : Text.Binary64)
  | text (value : String)
  | list (items : List Value)
  | table (entries : List (String × Value))
  | date (value : Time.Date)
  | time (value : ClockTime)
  /-- A date with a time, and perhaps minutes ahead of UTC. -/
  | stamp (date : Time.Date) (time : ClockTime) (offset : Option Int)
  deriving Inhabited, Repr

namespace Value

def kind : Value → String
  | .nothing => "NoneType"
  | .boolean _ => "bool"
  | .integer _ => "int"
  | .real _ => "float"
  | .text _ => "str"
  | .list _ => "list"
  | .table _ => "dict"
  | .date _ => "datetime.date"
  | .time _ => "datetime.time"
  | .stamp .. => "datetime.datetime"

/-- The entry of a table, the last one of a name. -/
def entry? (entries : List (String × Value)) (name : String) : Option Value :=
  (entries.reverse.find? (·.1 == name)).map (·.2)

/-- The decimal text of an integer, unless it is too long. -/
def integerText? (n : Int) : Option String :=
  if Nat.pow 10 Text.Number.digitLimit ≤ n.natAbs then none else some (toString n)

/-! ## Dates and times -/

/-- A time as `hh:mm:ss`, with its fraction if there is one. -/
def timeText (t : ClockTime) : String :=
  (Time.Fields.mk default t.hour t.minute t.second t.microsecond).clock
    ++ (Time.Fields.mk default t.hour t.minute t.second t.microsecond).fraction

/-- An offset as a sign, hours and minutes. -/
def offsetText (minutes : Int) : String :=
  (if minutes < 0 then "-" else "+") ++ Time.padded 2 (minutes.natAbs / 60) ++ ":"
    ++ Time.padded 2 (minutes.natAbs % 60)

/-- The arguments of a time: the seconds are left out when they and the fraction are zero. -/
def timeParts (t : ClockTime) : List String :=
  [toString t.hour, toString t.minute]
    ++ (if t.second = 0 ∧ t.microsecond = 0 then [] else [toString t.second])
    ++ (if t.microsecond = 0 then [] else [toString t.microsecond])

def dateParts (d : Time.Date) : List String := [toString d.year, toString d.month, toString d.day]

/-- An offset as an argument: its days and seconds, where only the days may be negative. -/
def offsetParts : Option Int → List String
  | none => []
  | some 0 => ["tzinfo=datetime.timezone.utc"]
  | some minutes =>
    let days := minutes / 1440
    let seconds := minutes % 1440 * 60
    let parts := (if days = 0 then [] else ["days=" ++ toString days])
      ++ (if seconds = 0 then [] else ["seconds=" ++ toString seconds])
    ["tzinfo=datetime.timezone(datetime.timedelta(" ++ ", ".intercalate parts ++ "))"]

def called (name : String) (parts : List String) : String :=
  name ++ "(" ++ ", ".intercalate parts ++ ")"

/-! ## Texts -/

mutual

/-- The form of a value inside a list or a message. -/
def shown? : Value → Option String
  | .nothing => some "None"
  | .boolean b => some (if b then "True" else "False")
  | .integer n => integerText? n
  | .real x => some x.toText
  | .text s => some (Text.Quoted.quote s)
  | .list items => (shownItems? items).map fun parts => "[" ++ ", ".intercalate parts ++ "]"
  | .table entries =>
    (shownEntries? entries).map fun parts => "\x7b" ++ ", ".intercalate parts ++ "\x7d"
  | .date d => some (called "datetime.date" (dateParts d))
  | .time t => some (called "datetime.time" (timeParts t))
  | .stamp d t offset =>
    some (called "datetime.datetime" (dateParts d ++ timeParts t ++ offsetParts offset))

def shownItems? : List Value → Option (List String)
  | [] => some []
  | v :: rest => do return (← shown? v) :: (← shownItems? rest)

def shownEntries? : List (String × Value) → Option (List String)
  | [] => some []
  | (name, v) :: rest => do
    return (Text.Quoted.quote name ++ ": " ++ (← shown? v)) :: (← shownEntries? rest)

end

def display? : Value → Option String
  | .text s => some s
  | .date d => some d.iso
  | .time t => some (timeText t)
  | .stamp d t offset => some (d.iso ++ " " ++ timeText t ++ (offset.map offsetText).getD "")
  | v => shown? v

/-! ## Values of JSON -/

mutual

/-- The value a JSON value stands for. A number with a fraction or an exponent is real. -/
def ofJson : Text.Json → Value
  | .null => .nothing
  | .bool b => .boolean b
  | .number digits =>
    match digits.toInt? with
    | some n => .integer n
    | none => .real ((Text.Binary64.ofText? digits).getD .nan)
  | .string s => .text s
  | .array items => .list (ofItems items)
  | .object fields => .table (ofFields fields)

def ofItems : List Text.Json → List Value
  | [] => []
  | v :: rest => ofJson v :: ofItems rest

def ofFields : List (String × Text.Json) → List (String × Value)
  | [] => []
  | (name, v) :: rest => (name, ofJson v) :: ofFields rest

end

end Value

end FeedSieve
