import FeedSieve.Event.Basic
import FeedSieve.Text.Json

/-!
# Events as JSON

The events as one compact array. The fields of an event keep their order, and its instants are written as
timestamps.
-/
namespace FeedSieve.Output

def eventJson (e : Event) : Text.Json :=
  .object [("uid", .string e.uid), ("summary", .string e.summary),
    ("stamp", .string e.stamp.timestamp), ("created", .string e.created.timestamp),
    ("start", .string e.start.timestamp), ("end", .string e.finish.timestamp)]

def renderJson (events : List Event) : String := (Text.Json.array (events.map eventJson)).render

end FeedSieve.Output
