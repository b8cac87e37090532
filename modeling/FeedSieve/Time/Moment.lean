import FeedSieve.Log
import FeedSieve.Text.Case
import FeedSieve.Text.Quoted
import FeedSieve.Time.Zone.Directory

/-!
# Moments of a calendar

A date property holds a date, a reading of an unnamed clock, or a reading of a clock whose offset from UTC
is known, if that clock tells it. `Moment.toUtc` turns each into an instant. A reading without an offset is
taken on the clock of the zone that the property names, or of UTC; a date is its midnight.
-/
namespace FeedSieve.Time

/-- What a date property says. -/
inductive Moment where
  | date (d : Date)
  | floating (w : Wall)
  | anchored (w : Wall) (offset : Int)
  /-- A reading of a clock that fails to tell its offset. -/
  | adrift (w : Wall) (cause : Fault)
  deriving DecidableEq, Repr

/-- The zone a property names: none, one, or several. -/
inductive ZoneName where
  | none
  | one (name : String)
  | several (names : List String)
  deriving DecidableEq, Repr

/-- The name as log entries show it: several names are listed in brackets. -/
def ZoneName.shown : ZoneName → String
  | .none => ""
  | .one name => name
  | .several names => "[" ++ ", ".intercalate (names.map Text.Quoted.quote) ++ "]"

/-- Whether nothing is named. -/
def ZoneName.isEmpty : ZoneName → Bool
  | .none => true
  | .one name => name == ""
  | .several names => names.isEmpty

/-- A zone of the directory under its own name. -/
structure NamedZone where
  name : String
  timeline : Timeline
  deriving Repr

def utc : NamedZone := ⟨"UTC", (Zone.fixedAt 0).timeline⟩

/-- The zone a name stands for in any case, if the directory has it. -/
def knownZone? (name : String) : Option NamedZone :=
  if Text.Case.upper name = "UTC" then some utc
  else do
    let canonical ← Zone.canonicalName? name
    let zone ← Zone.find? canonical
    return ⟨canonical, zone.timeline⟩

/-- The zone a property names, UTC if it names none. An unknown name is reported and stands for UTC. -/
def resolve (name : ZoneName) : Logged NamedZone :=
  if name.isEmpty then pure utc
  else
    let known := match name with
      | .one name => knownZone? name
      | _ => none
    match known with
    | some zone => pure zone
    | none => do
      Logged.write .warning "unknown_timezone"
        [("tzid", .string name.shown), ("fallback", .string utc.name)]
      return utc

section Library

variable [ZoneLibrary]

/-- What ends the lookup of a name. -/
def ZoneName.fault? : ZoneName → Option Fault
  | .several (_ :: _) => ZoneLibrary.several
  | _ => .none

/-- The instant at which the clock of the zone that is named shows a reading. -/
def Wall.inZone (w : Wall) (name : ZoneName) : Logged (Option Instant) :=
  match name.fault? with
  | some _ => pure none
  | none => do
    let zone ← resolve name
    return zone.timeline.toInstant? w

/-- The instant of a moment; `none` when it falls outside the years 1 to 9999, or when no clock tells it. -/
def Moment.toUtc (m : Moment) (name : ZoneName) : Logged (Option Instant) :=
  match m with
  | .anchored w offset => pure (w.toInstant? offset)
  | .adrift _ _ => pure none
  | .floating w => w.inZone name
  | .date d =>
    match d.midnight? with
    | none => pure none
    | some w => w.inZone name

/-- Why a moment without an instant has none. -/
def Moment.failure (m : Moment) (name : ZoneName) : Fault :=
  match m with
  | .anchored _ _ => .dateOutOfRange
  | .adrift _ cause => cause
  | .floating _ => name.fault?.getD .dateOutOfRange
  | .date _ => name.fault?.getD .dateOutOfRange

end Library

end FeedSieve.Time
