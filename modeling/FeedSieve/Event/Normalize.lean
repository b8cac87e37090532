import FeedSieve.Event.Basic
import FeedSieve.Fault
import FeedSieve.ICalendar.Component

/-!
# Normalizing events

An entry of a calendar becomes an event if it has an identifier, a title, a start and an end, and if its
dates are dates. Of a repeated property the first counts. The end may be given as a length; a missing
creation time is the start, a missing stamp is the time of processing.
-/
namespace FeedSieve

open ICalendar

inductive EntryError where
  | missing (field : String)
  | malformed (field : String)
  deriving DecidableEq, Repr

def EntryError.field : EntryError → String
  | .missing field => field
  | .malformed field => field

def EntryError.message : EntryError → String
  | .missing field => "missing required field: " ++ field
  | .malformed field => "malformed field: " ++ field

namespace Event

/-- Why an entry gives no event: it is refused, or a fault ends the whole request. -/
inductive Failure where
  | refused (cause : EntryError)
  | fault (cause : Fault)
  deriving DecidableEq, Repr

abbrev Step := Traced Failure

def refuse {α : Type} (e : EntryError) : Step α := throw (.refused e)

def abort {α : Type} (f : Fault) : Step α := throw (.fault f)

/-- A value, or what ends the request where there is none. -/
def orAbort {α : Type} (cause : Fault) : Option α → Step α
  | some a => pure a
  | none => abort cause

/-- A required text. An empty one is missing. -/
def requiredText (c : Component) (name : String) : Step String :=
  match c.first? name with
  | some p => if p.text = "" then refuse (.missing name) else pure p.text
  | none => refuse (.missing name)

/-- The values a date property holds. A broken one ends the request. -/
def held (p : Property) : Step (Option Datum × Option Datum × Time.ZoneName) :=
  match p.content with
  | .plain => pure (none, none, .none)
  | .number _ => pure (none, none, .none)
  | .dated date length zone => pure (date, length, zone)
  | .broken cause => abort (.brokenProperty p.name cause.message)

/-- The instant of a date property, if the entry has it. -/
def instant? [Time.ZoneLibrary] (c : Component) (name : String) : Step (Option Time.Instant) :=
  match c.first? name with
  | none => pure none
  | some p => do
    match ← held p with
    | (some (.moment m), _, zone) =>
      some <$> orAbort (m.failure zone) (← Traced.ofLogged (m.toUtc zone))
    | _ => refuse (.malformed name)

def isVoid : Option Datum → Bool
  | none => true
  | some (.duration seconds) => seconds == 0
  | some (.other empty) => empty
  | some (.moment _) => false

/-- The length of an entry, in seconds. -/
def length (p : Property) : Step Int := do
  let (date, length, _) ← held p
  -- A value that counts as nothing gives way to the length read beside it.
  match if isVoid date then length else date with
  | some (.duration seconds) => pure seconds
  | _ => refuse (.malformed "DURATION")

def finish? [Time.ZoneLibrary] (c : Component) (start : Time.Instant) : Step Time.Instant := do
  match ← instant? c "DTEND" with
  | some t => pure t
  | none =>
    match c.first? "DURATION" with
    | none => refuse (.missing "DTEND")
    | some p => orAbort .dateOutOfRange (start.add? (← length p))

def ofEntry [Time.ZoneLibrary] (c : Component) (now : Time.Instant) : Step Event := do
  -- The order of the checks decides which field an entry is refused for.
  let uid ← requiredText c "UID"
  let summary ← requiredText c "SUMMARY"
  let start ← match ← instant? c "DTSTART" with
    | some t => pure t
    | none => refuse (.missing "DTSTART")
  let finish ← finish? c start
  let stamp ← instant? c "DTSTAMP"
  let created ← instant? c "CREATED"
  return ⟨uid, summary, stamp.getD now, created.getD start, start, finish⟩

end Event

end FeedSieve
