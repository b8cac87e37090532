import FeedSieve.Event.Basic
import FeedSieve.ICalendar.Escape
import FeedSieve.ICalendar.Lines

/-!
# Events as a calendar

The events as one calendar: a head, the zone of UTC, and one entry for each event. Every property is one
line before it is folded, since escapes leave no line break in a value.
-/
namespace FeedSieve.Output

def textLine (name text : String) : List Char :=
  name.toList ++ ':' :: ICalendar.escape text.toList

def instantLine (name : String) (t : Time.Instant) : List Char :=
  name.toList ++ ':' :: t.basic.toList

def eventLines (e : Event) : List (List Char) := [
  "BEGIN:VEVENT".toList,
  textLine "SUMMARY" e.summary,
  instantLine "DTSTART" e.start,
  instantLine "DTEND" e.finish,
  instantLine "DTSTAMP" e.stamp,
  textLine "UID" e.uid,
  instantLine "CREATED" e.created,
  "END:VEVENT".toList]

def zoneLines : List (List Char) := [
  "BEGIN:VTIMEZONE".toList,
  "TZID:UTC".toList,
  "BEGIN:STANDARD".toList,
  "DTSTART:19700329T020000".toList,
  "TZNAME:UTC".toList,
  "TZOFFSETFROM:+0000".toList,
  "TZOFFSETTO:+0000".toList,
  "END:STANDARD".toList,
  "END:VTIMEZONE".toList]

def calendarLines (prodid : String) (events : List Event) : List (List Char) :=
  ["BEGIN:VCALENDAR".toList, "VERSION:2.0".toList, textLine "PRODID" prodid,
    "CALSCALE:GREGORIAN".toList, "METHOD:PUBLISH".toList]
    ++ zoneLines ++ events.flatMap eventLines ++ ["END:VCALENDAR".toList]

/-- The producer that is named unless another is set. -/
def defaultProdid : String := "-//ical-filter//ical-filter//EN"

def renderCalendar (prodid : String) (events : List Event) : String :=
  String.ofList ((calendarLines prodid events).flatMap ICalendar.fold)

end FeedSieve.Output
