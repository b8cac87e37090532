import FeedSieve.Output.Calendar
import FeedSieve.Output.Json

/-!
# Output formats

Events are answered as JSON or as a calendar.
-/
namespace FeedSieve.Output

inductive Format where
  | json
  | calendar
  deriving DecidableEq, Repr

def Format.mediaType : Format → String
  | .json => "application/json"
  | .calendar => "text/calendar; charset=utf-8"

def Format.render (f : Format) (prodid : String) (events : List Event) : String :=
  match f with
  | .json => renderJson events
  | .calendar => renderCalendar prodid events

end FeedSieve.Output
