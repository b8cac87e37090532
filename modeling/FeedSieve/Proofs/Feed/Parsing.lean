import FeedSieve.Proofs.Feed.Zones
import FeedSieve.Proofs.ICalendar.Snag

/-!
# What reading a feed comes to

A text is read as calendars, of which there is at least one, or it is refused as no feed, unless its lines come
upon a snag: then reading ends with the fault of the first one, which nothing answers for. Main statement:
`parse_outcome`.
-/
namespace FeedSieve.Feed

open ICalendar

variable {zones : Registry} {text : String} {e : ParseError} {f : Fault}

theorem fault?_eq_some_iff : e.fault? = some f ↔ e = .unreadable (.fault f) := by
  unfold ParseError.fault?
  split <;> simp_all

/-- The calendars of a feed are calendars, and there is at least one. -/
theorem calendars_of_parse [ZoneMaker] {calendars : List Component}
    (parsed : (parseCalendars zones text).2 = .ok calendars) :
    calendars ≠ [] ∧ ∀ c ∈ calendars, c.name = "VCALENDAR" := by
  unfold parseCalendars at parsed
  split at parsed
  · cases parsed
  · split at parsed
    · cases parsed
    · rename_i found
      cases parsed
      exact ⟨found, fun c member => by simpa using (List.mem_filter.mp member).2⟩

/-- Reading a feed ends with a fault exactly if its lines come upon a snag. -/
theorem parse_fault_iff [ZoneMaker] : (parseCalendars zones text).2 = .error (.unreadable (.fault f))
    ↔ Progress.Stuck ⟨[], [], zones⟩ (lines (dropMark text.toList)) f := by
  rw [← readComponents_eq_fault_iff, parseCalendars]
  split
  · rename_i cause unread
    simp [unread]
  · rename_i cs read
    rw [read]
    split <;> simp

theorem normalize_of_unparsed [Time.ZoneLibrary] [ZoneMaker]
    (unread : (parseCalendars zones text).2 = .error e) (now : Time.Instant) :
    (normalize zones text now).2.outcome = .error (.ofParse e) := by
  unfold normalize
  split
  · rename_i parsed
    rw [parsed] at unread
    cases unread
  · rename_i parsed
    rw [parsed] at unread
    cases unread
    rfl

/-- The lines of an event that ends as a zone. -/
def endlessEvent : List (String × String) := [("BEGIN", "VEVENT"), ("TZID", "Custom"), ("END", "VTIMEZONE")]

def customEvent : Component := ⟨"VEVENT", [.plain "TZID" "Custom"], []⟩

theorem stuck_endlessEvent [ZoneMaker] : Progress.Stuck ⟨[], [], []⟩ (endlessEvent.map Progress.namedLine)
    (.noAttribute customEvent.kind "to_tz") := by
  have opened : Progress.step ⟨[], [], []⟩ (Progress.namedLine ("BEGIN", "VEVENT"))
      = .ok ⟨[⟨"VEVENT", [], []⟩], [], []⟩ := by
    rw [Progress.step_namedLine _ (by decide)]
    rfl
  have named : Progress.step ⟨[⟨"VEVENT", [], []⟩], [], []⟩ (Progress.namedLine ("TZID", "Custom"))
      = .ok ⟨[customEvent], [], []⟩ := by
    rw [Progress.step_namedLine _ (by decide)]
    rfl
  have ends : Progress.EndsZone (Progress.namedLine ("END", "VTIMEZONE")) :=
    ⟨_, ContentLine.parse_named (by decide : Capital "END".toList) _, rfl, rfl⟩
  have foreign : Progress.Unfit [] customEvent (.noAttribute customEvent.kind "to_tz") :=
    .foreign rfl unlisted_custom (by decide)
  exact .later opened (.later named (.here (.zone ends rfl foreign) []))

end FeedSieve.Feed
