import FeedSieve.Proofs.Feed.Encoding
import FeedSieve.Proofs.Feed.Isolation
import FeedSieve.Proofs.Feed.Zones
import FeedSieve.Sieve

/-!
# What collecting the events of a feed does

Collecting makes one request. It reports the stages of the pipeline only, it is refused by the fetch or
by the feed, never by the filter, and it only adds zones.
-/
namespace FeedSieve

open ICalendar

/-- The entries that the stages of the pipeline write. -/
def stageNames : List String := ["fetching_feed", "fetched_feed", "unknown_timezone", "dropping_event",
  "normalized_feed", "filtered_feed"]

def IsStage (e : Log.Entry) : Prop := e.event ∈ stageNames

namespace Feed

theorem eventsOf_stages [Time.ZoneLibrary] (now : Time.Instant) (calendars : List Component) :
    (eventsOf now calendars).Only IsStage := by
  unfold eventsOf
  have entries : (outcomesOf now (sourceEvents calendars)).Only IsStage :=
    outcomesOf_only (fun e zone => by simp [IsStage, zone, stageNames])
      (fun e dropping => by simp [IsStage, dropping, stageNames]) now _
  refine Traced.only_bind entries fun result _ => ?_
  dsimp only
  split
  · refine Traced.only_bind (Traced.only_ofLogged ?_) fun _ _ => Traced.only_pure _ _
    simp [IsStage, stageNames]
  · exact Traced.only_pure _ _

theorem normalize_stages [Time.ZoneLibrary] [ZoneMaker] (zones : Registry) (text : String)
    (now : Time.Instant) :
    (normalize zones text now).2.Only IsStage := by
  unfold normalize
  split
  · exact eventsOf_stages now _
  · exact Traced.only_throw _ _

theorem fetch_stages (client : Client) (transport : Transport) (url : String) :
    ∀ e ∈ (fetch client transport url).entries, IsStage e := by
  intro e member
  rcases List.mem_cons.mp member with rfl | reply
  · simp [IsStage, stageNames]
  · unfold Reply.entries at reply
    split at reply
    · split at reply
      · cases reply
      · rw [List.mem_singleton.mp reply]
        simp [IsStage, stageNames]
    · cases reply

end Feed

namespace Sieve

variable (s : Sieve) (zones : Registry) (url : String) (e : Filter.Expression) (now : Time.Instant)
variable [Time.ZoneLibrary] [ZoneMaker]

/-- The one request that is made for a feed. -/
def request : Feed.Request := ⟨Feed.target url, s.client.timeout, s.client.agent⟩

theorem collect_requests : (s.collect zones url e now).2.requests =
    [s.request url] := by
  unfold collect
  dsimp only
  split
  · rfl
  · split <;> rfl

theorem collect_stages : ∀ entry ∈
    (s.collect zones url e now).2.entries, IsStage entry := by
  have fetched := Feed.fetch_stages s.client s.transport url
  unfold collect
  dsimp only
  split
  · exact fetched
  · rename_i text _
    have normalized := Feed.normalize_stages zones text now
    split
    · intro entry member
      rcases List.mem_append.mp member with before | after
      · exact fetched entry before
      · exact normalized entry after
    · intro entry member
      rcases List.mem_append.mp member with before | filtered
      · rcases List.mem_append.mp before with before | after
        · exact fetched entry before
        · exact normalized entry after
      · rw [List.mem_singleton.mp filtered]
        simp [IsStage, stageNames, filteredEntry]

/-- Collecting is refused by the fetch or by the feed. -/
theorem collect_refused {cause : Refusal}
    (h : (s.collect zones url e now).2.value = .error (.refused cause)) :
    (∃ c, cause = .fetch c) ∨ (∃ c, cause = .feed c) := by
  unfold collect at h
  dsimp only at h
  split at h
  · rename_i failure _
    cases failure with
    | refused c =>
      cases h
      exact .inl ⟨c, rfl⟩
    | fault f => cases h
  · split at h
    · rename_i failure _
      cases failure with
      | unparsable c =>
        cases h
        exact .inr ⟨c, rfl⟩
      | fault f => cases h
    · cases h

/-- What is collected of a feed that could be fetched. -/
theorem collect_fetched {text : String}
    (fetched : (Feed.fetch s.client s.transport url).value = .ok text) :
    (s.collect zones url e now).1 = (Feed.normalize zones text now).1 ∧
    (s.collect zones url e now).2.value = match (Feed.normalize zones text now).2.outcome with
      | .ok events => .ok (events.filter fun event => e.accepts event.summary)
      | .error cause => .error (.ofFeed cause) := by
  unfold collect
  dsimp only
  rw [fetched]
  dsimp only
  cases (Feed.normalize zones text now).2.outcome <;> exact ⟨rfl, rfl⟩

/-- Nothing is read of a feed that could not be fetched. -/
theorem collect_unfetched {cause : Feed.FetchFailure}
    (fetched : (Feed.fetch s.client s.transport url).value = .error cause) :
    (s.collect zones url e now).1 = zones := by
  unfold collect
  dsimp only
  rw [fetched]

/-- A feed that could not be fetched fails as its fetch did. -/
theorem collect_value_unfetched {cause : Feed.FetchFailure}
    (fetched : (Feed.fetch s.client s.transport url).value = .error cause) :
    (s.collect zones url e now).2.value = .error (.ofFetch cause) := by
  unfold collect
  dsimp only
  rw [fetched]

theorem collect_extends : zones.Extends (s.collect zones url e now).1 := by
  cases fetched : (Feed.fetch s.client s.transport url).value with
  | ok text =>
    rw [(s.collect_fetched zones url e now fetched).1]
    exact Feed.normalize_extends zones text now
  | error cause =>
    rw [s.collect_unfetched zones url e now fetched]
    exact .refl zones

/-- A filter that cannot be read is answered before anything is fetched. -/
theorem sieve_unread {raw : Option String} {cause : Failure} (h : readFilter raw = .error cause)
    (format : Output.Format) :
    s.sieve zones url raw format now = (zones, ⟨[], [], .error cause⟩) := by
  rw [sieve, h]

theorem sieve_read {raw : Option String} {e : Filter.Expression} (h : readFilter raw = .ok e)
    (format : Output.Format) :
    s.sieve zones url raw format now = ((s.collect zones url e now).1,
      { (s.collect zones url e now).2 with
        value := (s.collect zones url e now).2.value.map (format.render s.prodid) }) := by
  rw [sieve, h]
  rfl

end Sieve

/-- Reading a filter is refused by the filter. -/
theorem readFilter_refused {raw : Option String} {cause : Refusal}
    (h : readFilter raw = .error (.refused cause)) : ∃ c, cause = .filter c := by
  unfold readFilter at h
  split at h
  · cases h
  · rename_i error _
    rw [Except.error.injEq] at h
    unfold Failure.ofFilter at h
    split at h
    · cases h
    · cases h
      exact ⟨error, rfl⟩

end FeedSieve
