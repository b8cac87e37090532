import FeedSieve.Event.Normalize
import FeedSieve.Feed.Document

/-!
# Normalizing feeds

The events of a feed, in the order of its text. An entry that is refused is dropped and reported; a fault
ends the request.
-/
namespace FeedSieve.Feed

open ICalendar

inductive Failure where
  | unparsable (cause : ParseError)
  | fault (cause : Fault)
  deriving DecidableEq, Repr

/-- The failure of a text that gives no calendars. A fault passes as it is. -/
def Failure.ofParse (e : ParseError) : Failure :=
  match e.fault? with
  | some cause => .fault cause
  | none => .unparsable e

/-- The identifier of an entry as reports show it, unless it counts as nothing. -/
def shownUid (c : Component) : Text.Json :=
  match c.first? "UID" with
  | some p => if p.isVoid then .null else .string p.text
  | none => .null

/-- The event of an entry, or nothing and a report of why it is dropped. -/
def outcomeOf [Time.ZoneLibrary] (now : Time.Instant) (c : Component) : Traced Failure (Option Event) :=
  let result := Event.ofEntry c now
  ExceptT.mk do
    -- What was written before the entry was refused stays in the log.
    Logged.mk result.entries ()
    match result.outcome with
    | .ok e => return .ok (some e)
    | .error (.fault f) => return .error (.fault f)
    | .error (.refused e) => do
      Logged.write .warning "dropping_event" [("uid", shownUid c), ("reason", .string e.message)]
      return .ok none

/-- The events of entries, and how many entries were dropped. -/
def outcomesOf [Time.ZoneLibrary] (now : Time.Instant) : List Component → Traced Failure (List Event × Nat)
  | [] => pure ([], 0)
  | c :: rest => do
    let event ← outcomeOf now c
    let (events, dropped) ← outcomesOf now rest
    match event with
    | some e => return (e :: events, dropped)
    | none => return (events, dropped + 1)

def eventsOf [Time.ZoneLibrary] (now : Time.Instant) (calendars : List Component) : Traced Failure (List Event) := do
  let (events, dropped) ← outcomesOf now (sourceEvents calendars)
  if dropped ≠ 0 then
    Traced.ofLogged (Logged.write .info "normalized_feed"
      [("events", .int events.length), ("dropped", .int dropped)])
  return events

/-- The events of a feed, and the zones that calendars have defined by then. -/
def normalize [Time.ZoneLibrary] [ZoneMaker] (zones : Registry) (text : String) (now : Time.Instant) :
    Registry × Traced Failure (List Event) :=
  match parseCalendars zones text with
  | (zones, .ok calendars) => (zones, eventsOf now calendars)
  | (zones, .error e) => (zones, throw (.ofParse e))

end FeedSieve.Feed
