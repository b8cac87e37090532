import FeedSieve.ICalendar.Property

/-!
# Components

A component has a name, properties and components inside it, in the order of the text. A component that
defines a zone lists observances. What zone they make is up to a `ZoneMaker`.
-/
namespace FeedSieve.ICalendar

/-- A component, its name in upper case. -/
structure Component where
  name : String
  properties : List Property
  children : List Component

namespace Component

instance : Inhabited Component := ⟨⟨"", [], []⟩⟩

def first? (c : Component) (name : String) : Option Property :=
  c.properties.find? (·.name == name)

/-- The properties that give the component an identifier of a zone. -/
def identifiers (c : Component) : List Property := c.properties.filter (·.name == "TZID")

/-- The kinds of the components that have one of their own. -/
def kinds : List (String × String) :=
  [("VCALENDAR", "Calendar"), ("VEVENT", "Event"), ("VTODO", "Todo"), ("VJOURNAL", "Journal"),
    ("VFREEBUSY", "FreeBusy"), ("VTIMEZONE", "Timezone"), ("STANDARD", "TimezoneStandard"),
    ("DAYLIGHT", "TimezoneDaylight"), ("VALARM", "Alarm"), ("VAVAILABILITY", "Availability"),
    ("AVAILABLE", "Available")]

/-- The kind of a component. One without a kind of its own has the word characters of its name. -/
def kind (c : Component) : String :=
  match kinds.find? (·.1 == c.name) with
  | some (_, kind) => kind
  | none => String.ofList (c.name.toList.filter Text.Class.isWord)

def addProperty (c : Component) (p : Property) : Component :=
  { c with properties := c.properties ++ [p] }

def addChild (c : Component) (child : Component) : Component :=
  { c with children := c.children ++ [child] }

/-- The parts of a zone that the component defines. -/
def observances (c : Component) : List Component :=
  c.children.filter fun o => o.name == "STANDARD" || o.name == "DAYLIGHT"

end Component

inductive ZoneDefect where
  | refused (message : String)
  | fault (cause : Fault)
  deriving DecidableEq, Repr

/-- How zones are made of definitions. -/
class ZoneMaker where
  /-- The zone of a definition with observances. -/
  zone : Component → Except ZoneDefect CustomZone
  /-- What is said of a definition without any. -/
  hollow : Component → String

end FeedSieve.ICalendar
