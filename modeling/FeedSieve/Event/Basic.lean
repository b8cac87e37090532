import FeedSieve.Text.Quoted
import FeedSieve.Time.Instant

/-!
# Events

An event keeps what both outputs need: its identifier, its title and four instants.
-/
namespace FeedSieve

/-- An event with all its instants on the clock of UTC. -/
structure Event where
  uid : String
  summary : String
  /-- When the source record was made. -/
  stamp : Time.Instant
  /-- When the appointment was made. -/
  created : Time.Instant
  start : Time.Instant
  finish : Time.Instant
  deriving DecidableEq, Repr

def Event.describe (e : Event) : String :=
  "CanonicalEvent(uid=" ++ Text.Quoted.quote e.uid ++ ", summary=" ++ Text.Quoted.quote e.summary
    ++ ", start=" ++ e.start.long ++ ")"

end FeedSieve
