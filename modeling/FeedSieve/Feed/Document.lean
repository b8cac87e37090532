import FeedSieve.ICalendar.Document

/-!
# Feed documents

The text of a feed is one calendar or several, perhaps with a byte-order mark in front. Its events are
those directly inside its outermost calendars, in the order of the text.
-/
namespace FeedSieve.Feed

open ICalendar

inductive ParseError where
  | unreadable (cause : DocumentError)
  | noCalendar
  deriving DecidableEq, Repr

def ParseError.message : ParseError → String
  | .unreadable cause => "Invalid calendar data: " ++ cause.message
  | .noCalendar => "No VCALENDAR found in feed"

/-- What reading a text came upon without an answer for it, if that is why there are no calendars. -/
def ParseError.fault? : ParseError → Option Fault
  | .unreadable (.fault cause) => some cause
  | _ => none

/-- Removes one byte-order mark in front. -/
def dropMark (text : List Char) : List Char :=
  if text.head? = some (Char.ofNat 0xFEFF) then text.tail else text

/-- The calendars of a feed. There is at least one. -/
def parseCalendars [ZoneMaker] (zones : Registry) (text : String) :
    Registry × Except ParseError (List Component) :=
  match readComponents zones (dropMark text.toList) with
  | (zones, .error e) => (zones, .error (.unreadable e))
  | (zones, .ok cs) =>
    match cs.filter (·.name == "VCALENDAR") with
    | [] => (zones, .error .noCalendar)
    | calendars => (zones, .ok calendars)

/-- The events directly inside calendars. -/
def sourceEvents (calendars : List Component) : List Component :=
  calendars.flatMap fun c => c.children.filter (·.name == "VEVENT")

end FeedSieve.Feed
