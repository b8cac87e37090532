import FeedSieve.Feed.Fetch
import FeedSieve.Feed.Normalize
import FeedSieve.Filter.Expression
import FeedSieve.Output.Format

/-!
# Sieving feeds

A sieve answers for a feed and a filter: the feed is fetched and normalized, and the events whose titles
pass are written in a format. A refusal has a name and a status; a fault has neither. Zones that a feed
defines are kept for the feeds after it.
-/
namespace FeedSieve

/-- Why a feed and a filter are not answered. -/
inductive Refusal where
  | filter (cause : Filter.FilterError)
  | fetch (cause : Feed.FetchError)
  | feed (cause : Feed.ParseError)
  deriving DecidableEq, Repr

namespace Refusal

/-- The name of a refused filter. -/
def filterName : Filter.ClauseError → String
  | .doubleNegation => "InvalidFilterSyntax"
  | .noColon => "InvalidFilterSyntax"
  | .unknownCondition => "InvalidFilterCondition"
  | _ => "InvalidFilterPattern"

def name : Refusal → String
  | .filter cause => filterName cause.cause
  | .fetch _ => "FetchError"
  | .feed _ => "SourceParseError"

def message : Refusal → String
  | .filter cause => cause.message
  | .fetch cause => cause.message
  | .feed cause => cause.message

/-- The status of a refusal: the caller's mistake, or the feed's. -/
def status : Refusal → Nat
  | .filter _ => 400
  | .fetch _ => 502
  | .feed _ => 502

end Refusal

inductive Failure where
  | refused (cause : Refusal)
  | fault (cause : Fault)
  deriving DecidableEq, Repr

def Failure.ofFilter (e : Filter.FilterError) : Failure :=
  match e.cause with
  | .fault cause => .fault cause
  | _ => .refused (.filter e)

def Failure.ofFetch : Feed.FetchFailure → Failure
  | .refused cause => .refused (.fetch cause)
  | .fault cause => .fault cause

def Failure.ofFeed : Feed.Failure → Failure
  | .unparsable cause => .refused (.feed cause)
  | .fault cause => .fault cause

/-- The filter that a caller gives. None is the empty one. -/
def readFilter (raw : Option String) : Except Failure Filter.Expression :=
  match Filter.Expression.parse (raw.getD "") with
  | .ok e => .ok e
  | .error e => .error (.ofFilter e)

/-- What feeds are fetched with, and the producer that calendars name. -/
structure Sieve where
  client : Feed.Client
  prodid : String
  transport : Feed.Transport

def Sieve.ofConfig (c : Settings.Config) (transport : Feed.Transport) : Sieve :=
  ⟨.ofConfig c, c.prodid, transport⟩

namespace Sieve

/-- What is reported of the events that pass a filter. -/
def filteredEntry (url : String) (e : Filter.Expression) (events passed : List Event) : Log.Entry :=
  ⟨.debug, "filtered_feed", [("url", .string url), ("filter", .string e.render),
    ("total", .int events.length), ("accepted", .int passed.length)]⟩

/-- The events of a feed that pass a filter. -/
def collect [Time.ZoneLibrary] [ICalendar.ZoneMaker] (s : Sieve) (zones : ICalendar.Registry)
    (url : String) (e : Filter.Expression) (now : Time.Instant) :
    ICalendar.Registry × Feed.Exchange (Except Failure (List Event)) :=
  let fetched := Feed.fetch s.client s.transport url
  match fetched.value with
  | .error cause => (zones, { fetched with value := .error (.ofFetch cause) })
  | .ok text =>
    let (zones, normalized) := Feed.normalize zones text now
    let entries := fetched.entries ++ normalized.entries
    match normalized.outcome with
    | .error cause => (zones, ⟨fetched.requests, entries, .error (.ofFeed cause)⟩)
    | .ok events =>
      let passed := events.filter fun event => e.accepts event.summary
      (zones, ⟨fetched.requests, entries ++ [filteredEntry url e events passed], .ok passed⟩)

/-- The text of the events of a feed that pass a filter. -/
def run [Time.ZoneLibrary] [ICalendar.ZoneMaker] (s : Sieve) (zones : ICalendar.Registry) (url : String)
    (e : Filter.Expression) (format : Output.Format) (now : Time.Instant) :
    ICalendar.Registry × Feed.Exchange (Except Failure String) :=
  let (zones, collected) := s.collect zones url e now
  (zones, { collected with value := collected.value.map (format.render s.prodid) })

/-- The answer for a feed and a filter as a caller gives it. The filter is read before anything is
fetched. -/
def sieve [Time.ZoneLibrary] [ICalendar.ZoneMaker] (s : Sieve) (zones : ICalendar.Registry) (url : String)
    (raw : Option String) (format : Output.Format) (now : Time.Instant) :
    ICalendar.Registry × Feed.Exchange (Except Failure String) :=
  match readFilter raw with
  | .error cause => (zones, ⟨[], [], .error cause⟩)
  | .ok e => s.run zones url e format now

end Sieve

end FeedSieve
