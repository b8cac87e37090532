import FeedSieve.ICalendar.Component

/-!
# Zones made of observances

An observance has a first onset on the wall clock, perhaps yearly rules and single times for later onsets,
and the offset it brings. The one in force is the one with the latest onset that a reading has reached; before
all onsets it is the first that is not daylight time, and a lone observance is always in force. Several that
are all daylight time fail to tell an offset before their onsets. `ZoneMaker.current` makes zones in this way.
-/
namespace FeedSieve.ICalendar

/-- A yearly rule: the given weekday of a month, counted from its start or, if so flagged, from its end. It
may be limited to a number of onsets, and to those up to a second of the wall clock. -/
structure YearlyOnset where
  month : Nat
  week : Nat
  fromEnd : Bool
  weekday : Nat
  count : Option Nat
  last : Option Nat
  deriving DecidableEq, Repr

/-- The number of the day on which the rule falls in a year, if it does. -/
def YearlyOnset.day? (r : YearlyOnset) (year : Nat) : Option Nat :=
  let first := Time.Date.number ⟨year, r.month, 1⟩
  let days := Time.daysInMonth year r.month
  let onWeekday := (List.range days).filter fun i => (first + i + 1) % 7 == r.weekday
  let counted := if r.fromEnd then onWeekday.reverse else onWeekday
  (counted[r.week - 1]?).map (first + ·)

/-- The onsets of a rule through a year, in seconds of the wall clock. They start with a given one and keep
its time of day. -/
def YearlyOnset.through (r : YearlyOnset) (start : Time.Wall) (year : Nat) : List Nat :=
  let first := start.ticks.fields.date.year
  let onsets := (List.range' first (year + 1 - first)).filterMap fun y =>
    (r.day? y).map fun d => d * 86400 + start.seconds % 86400
  let started := onsets.filter (start.seconds ≤ ·)
  let counted := match r.count with
    | some n => started.take n
    | none => started
  match r.last with
  | some s => counted.filter (· ≤ s)
  | none => counted

/-- A part of a zone's year. -/
structure Observance where
  daylight : Bool
  onset : Time.Wall
  rules : List YearlyOnset
  single : List Nat
  offset : Int
  deriving DecidableEq, Repr

/-- The latest onset, in seconds of the wall clock, that a reading has reached. -/
def Observance.latest? (o : Observance) (w : Time.Wall) : Option Nat :=
  let yearly := o.rules.flatMap (·.through o.onset w.ticks.fields.date.year)
  ((o.onset.seconds :: o.single ++ yearly).filter (· ≤ w.seconds)).max?

/-- The observance in force for a reading. -/
def inForce? (all : List Observance) (w : Time.Wall) : Option Observance :=
  let step := fun (best : Option (Nat × Observance)) (o : Observance) =>
    match o.latest? w, best with
    | none, _ => best
    | some s, none => some (s, o)
    -- Of two with the same onset the first counts.
    | some s, some (t, _) => if t < s then some (s, o) else best
  match all with
  | [only] => some only
  | _ =>
    match all.foldl step none with
    | some (_, o) => some o
    | none => all.find? (!·.daylight)

def CustomZone.ofObservances (all : List Observance) : CustomZone where
  offset w :=
    match inForce? all w with
    | some o => .ok o.offset
    | none => .error (.unannounced "TypeError" "'_tzicalvtzcomp' object is not subscriptable")

/-! ## Reading observances -/

def weekday? (s : List Char) : Option Nat :=
  ["SU", "MO", "TU", "WE", "TH", "FR", "SA"].findIdx? (· == String.ofList s)

def ruleFields (s : List Char) : List (String × List Char) :=
  (Text.splitAt ';' s).filterMap fun pair =>
    match Text.splitAt '=' pair with
    | [key, value] => some (Text.Case.upper (String.ofList key), value)
    | _ => none

/-- A recurrence rule that names a yearly month, week and weekday. -/
def yearlyOnset? (fields : List (String × List Char)) : Option YearlyOnset := do
  let field := fun key : String => (fields.find? (·.1 == key)).map (·.2)
  if (← field "FREQ") ≠ "YEARLY".toList then none
  let month ← (String.ofList (← field "BYMONTH")).toNat?
  let (fromEnd, day) := Text.Number.splitSign (← field "BYDAY")
  let week ← (String.ofList (day.takeWhile Char.isDigit)).toNat?
  let weekday ← weekday? (day.dropWhile Char.isDigit)
  if week = 0 ∨ month = 0 ∨ 12 < month then none
  let count := (field "COUNT").bind fun s => (String.ofList s).toNat?
  let last := (field "UNTIL").bind fun s => (readWall? s).map (·.seconds)
  return ⟨month, week, fromEnd, weekday, count, last⟩

/-- Reads a recurrence rule. One without a frequency is no rule; other rules than yearly ones add nothing. -/
def readRule (s : List Char) : Except ZoneDefect (Option YearlyOnset) :=
  let fields := ruleFields s
  if fields.any (·.1 == "FREQ") then .ok (yearlyOnset? fields)
  else .error (.fault (.unannounced "TypeError"
    "rrule.__init__() missing 1 required positional argument: 'freq'"))

namespace Component

/-- The properties a zone may have, and those its observances may have. -/
def zoneNames : List String := ["TZID", "TZURL", "LAST-MODIFIED", "COMMENT"]

def observanceNames : List String :=
  ["DTSTART", "RRULE", "RDATE", "EXRULE", "EXDATE", "TZOFFSETFROM", "TZOFFSETTO", "TZNAME", "COMMENT"]

/-- What is said of the first property that is neither expected nor an extension. -/
def unsupported? (names : List String) (c : Component) : Option String :=
  (c.properties.find? fun p => !names.contains p.name && !"X-".toList.isPrefixOf p.name.toList).map
    fun p => "unsupported property: " ++ p.name

/-- What a definition is refused for, whatever its observances are. -/
def complaint? (c : Component) : Option String :=
  (c.unsupported? zoneNames).or
    ((c.children.find? fun o => o.name != "STANDARD" && o.name != "DAYLIGHT").map
      fun o => "unknown component: " ++ o.name)

/-- The first onset: a reading without a zone. -/
def onset (o : Component) : Except ZoneDefect Time.Wall :=
  match o.first? "DTSTART" with
  | some ⟨_, _, .dated (some (.moment (.floating w))) _ .none⟩ => .ok w
  | some ⟨_, _, .dated (some (.moment (.anchored w _))) _ .none⟩ => .ok w
  | some ⟨_, _, .dated (some (.moment (.date _))) _ _⟩ =>
    .error (.refused "Unsupported DTSTART param in VTIMEZONE: VALUE=DATE")
  | some ⟨_, _, .dated (some (.moment _)) _ zone⟩ =>
    .error (.refused ("Unsupported DTSTART param in VTIMEZONE: TZID=" ++ zone.shown))
  | _ => .error (.refused "mandatory DTSTART not found")

/-- An offset from UTC. The same is said of both where they are missing. -/
def offset (o : Component) (name : String) : Except ZoneDefect Int :=
  match (o.first? name).map fun p => readUtcOffset p.text.toList with
  | some (.ok seconds) => .ok seconds
  | _ => .error (.refused "mandatory TZOFFSETFROM not found")

def values (o : Component) (name : String) : List (List Char) :=
  (o.properties.filter (·.name == name)).map (·.text.toList)

def observance (o : Component) : Except ZoneDefect Observance := do
  match o.unsupported? observanceNames with
  | some message => throw (.refused message)
  | none =>
    let onset ← o.onset
    -- The offset before the onset must be there, although nothing uses it.
    let _ ← o.offset "TZOFFSETFROM"
    let offset ← o.offset "TZOFFSETTO"
    let rules ← (o.values "RRULE").mapM readRule
    let single := ((o.values "RDATE").flatMap (Text.splitAt ',')).filterMap readWall?
    return ⟨o.name == "DAYLIGHT", onset, rules.filterMap id, single.map (·.seconds), offset⟩

end Component

/-- Zones are made of observances. -/
instance (priority := low) ZoneMaker.current : ZoneMaker where
  zone c := do
    match c.complaint? with
    | some message => throw (.refused message)
    | none => return .ofObservances (← c.observances.mapM Component.observance)
  hollow c := c.complaint?.getD "at least one component is needed"

end FeedSieve.ICalendar
