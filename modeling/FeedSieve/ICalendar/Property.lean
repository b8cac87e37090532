import FeedSieve.ICalendar.ContentLine
import FeedSieve.ICalendar.Datum

/-!
# Properties

A property has a name, the text of its value, and what the value holds beyond the text. The name says
which form a value has; the parameter `VALUE` may ask for another. A value whose text has not the right
form is kept as broken.
-/
namespace FeedSieve.ICalendar

/-- What a property holds besides its text. -/
inductive Content where
  | plain
  | number (value : Int)
  /-- Values that may serve as a date or as a length, and the zone that the property names. -/
  | dated (date length : Option Datum) (zone : Time.ZoneName)
  | broken (cause : DatumError)
  deriving DecidableEq, Repr

/-- A property, its name in upper case. -/
structure Property where
  name : String
  text : String
  content : Content
  deriving DecidableEq, Repr

/-- Whether a property counts as nothing: it has no text, or it is the number 0. -/
def Property.isVoid (p : Property) : Bool := p.text == "" || p.content == .number 0

inductive Form where
  | text | date | dateList | integer | position | utcOffset | period | time
  deriving DecidableEq, Repr

def Form.ofName (name : String) : Form :=
  if name ∈ ["DTSTART", "DTEND", "DTSTAMP", "CREATED", "DURATION", "DUE", "TRIGGER", "COMPLETED",
      "LAST-MODIFIED", "RECURRENCE-ID", "ACKNOWLEDGED"] then .date
  else if name ∈ ["RDATE", "EXDATE"] then .dateList
  else if name ∈ ["SEQUENCE", "PRIORITY", "REPEAT", "PERCENT-COMPLETE"] then .integer
  else if name = "GEO" then .position
  else if name ∈ ["TZOFFSETFROM", "TZOFFSETTO"] then .utcOffset
  else .text

/-- The form a `VALUE` parameter asks for. The names of date forms say nothing new. Unknown names are ignored,
and here the forms that no property of an entry has, such as `FLOAT` and `BOOLEAN`, count among them. -/
def Form.ofValue? (value : String) : Option Form :=
  match Text.Case.upper value with
  | "TEXT" => some .text
  | "URI" => some .text
  | "INTEGER" => some .integer
  | "PERIOD" => some .period
  | "TIME" => some .time
  | _ => none

def Form.ofLine (l : ContentLine) : Form :=
  match l.parameter? "VALUE" with
  | some [value] => (ofValue? value).getD (ofName l.name)
  | _ => ofName l.name

/-- The properties whose zone is looked up while the calendar is read. -/
def zonedNames : List String := ["DTSTART", "DTEND", "RECURRENCE-ID", "DUE", "RDATE", "EXDATE"]

/-- The zone a line names. -/
def zoneNameOf (l : ContentLine) : Time.ZoneName :=
  match l.parameter? "TZID" with
  | none => .none
  | some [id] => .one id
  | some ids => .several ids

/-- The zone a line is read in. -/
def settingOf (r : Registry) (l : ContentLine) : Setting :=
  if l.name ∈ zonedNames then
    match zoneNameOf l with
    | .none => .unset
    | .one id => if id = "" then .unset else ((r.clock? id).map .within).getD .unset
    | .several _ => .conflicting
  else .unset

def readContent (r : Registry) (l : ContentLine) : Except DatumError (String × Content) :=
  let s := l.value.toList
  let setting := settingOf r l
  match Form.ofLine l with
  | .text => .ok (l.value, .plain)
  | .date => (readDatum setting s).map fun d => (l.value, .dated d d (zoneNameOf l))
  | .dateList =>
    ((Text.splitAt ',' s).mapM (readDatum setting)).map fun _ => (l.value, .plain)
  | .integer => (readInteger s).map fun n => (toString n, .number n)
  | .position => (checkPosition s).map fun _ => (l.value, .plain)
  | .utcOffset => (readUtcOffset s).map fun _ => (l.value, .plain)
  | .period => (readPeriod setting s).map fun _ => (l.value, .plain)
  | .time => (readTime s).map fun _ => (l.value, .plain)

/-- The property of a line, and what is wrong with its value. -/
def Property.ofLine (r : Registry) (l : ContentLine) : Property × Option DatumError :=
  match readContent r l with
  | .ok (text, content) => (⟨l.name, text, content⟩, none)
  | .error e => (⟨l.name, l.value, .broken e⟩, some e)

end FeedSieve.ICalendar
