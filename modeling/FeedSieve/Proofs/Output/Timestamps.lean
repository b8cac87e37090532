import FeedSieve.Output.Json
import FeedSieve.Proofs.Time.Order

/-!
# The timestamps of events

An event is written with four timestamps, and each of them is as long as the numeral of its year makes it. They
have the form `YYYY-MM-DDTHH:MM:SSZ`, in which texts are ordered as time is, from the year 1000 on. Main
statement: `timestamps_ordered`.
-/
namespace FeedSieve.Output

open Time

/-- The instants of an event with the names that they are written under. -/
def instants (e : Event) : List (String × Instant) :=
  [("stamp", e.stamp), ("created", e.created), ("start", e.start), ("end", e.finish)]

/-- The four instants of an event are written as timestamps, and so is the instant at which some clock shows a
reading. A timestamp is the text of the form `YYYY-MM-DDTHH:MM:SSZ` that shows the fields of its instant on the
clock of UTC, without the zeros in front, so that it has this form and its twenty characters exactly from the
year 1000 on. The texts of the form are ordered as time is, whatever the years. Two timestamps are so exactly if
the numerals of their years are ordered as these are, which they are if they have equally many digits. Time is
meant to the second, which for instants without a fraction of a second is the order of their counts. -/
theorem timestamps_ordered (e : Event) {w : Wall} {offset : Int} {t : Instant}
    (reached : w.toInstant? offset = some t) (t' : Instant) :
    eventJson e = .object ([("uid", .string e.uid), ("summary", .string e.summary)]
        ++ (instants e).map fun field => (field.1, .string field.2.timestamp))
    ∧ (t.seconds : Int) = w.seconds - offset
    ∧ Follows "0000-00-00T00:00:00Z".toList t.iso.toList
    ∧ t.iso.toList = List.replicate (4 - (toString t.year).length) '0' ++ t.timestamp.toList
    ∧ (t.timestamp = t.iso ↔ 1000 ≤ t.year)
    ∧ (t.timestamp.length = 20 ↔ 1000 ≤ t.year)
    ∧ (t.iso < t'.iso ↔ t.seconds < t'.seconds)
    ∧ ((t.timestamp < t'.timestamp ↔ t.seconds < t'.seconds)
      ↔ (toString t.year < toString t'.year ↔ t.year < t'.year))
    ∧ ((toString t.year).length = (toString t'.year).length →
      (t.timestamp < t'.timestamp ↔ t.seconds < t'.seconds))
    ∧ (t.ticks.IsWhole → t'.ticks.IsWhole → (t.seconds < t'.seconds ↔ t.ticks < t'.ticks)) := by
  have twenty : t.timestamp.length = 20 ↔ 1000 ≤ t.year := by
    rw [t.length_timestamp, ← t.four_digits_iff]
    omega
  exact ⟨rfl, Wall.seconds_of_toInstant? reached, t.follows_iso, t.iso_eq_timestamp, t.timestamp_eq_iso_iff,
    twenty, t.iso_lt_iff t', t.timestamp_ordered_iff t', t.timestamp_lt_iff_of_length t',
    Instant.seconds_lt_iff_of_isWhole⟩

/-- Five minutes past four on the third of February of the year 9. -/
def yearNine : Instant := ⟨⟨255326706000000, by decide⟩⟩

def yearTen : Instant := ⟨⟨286862706000000, by decide⟩⟩

def newYear : Instant := ⟨⟨63745056000000000, by decide⟩⟩

def newYearNext : Instant := ⟨⟨63745056001000000, by decide⟩⟩

/-- An event of its first second. -/
def newYearEvent : Event := ⟨"a", "b", newYear, newYear, newYear, newYearNext⟩

theorem timestamps_ordered_newYear : Wall.toInstant? ⟨newYear.ticks⟩ 0 = some newYear
    ∧ newYear.timestamp.length = 20
    ∧ (newYear.timestamp < newYearNext.timestamp ↔ newYear.ticks < newYearNext.ticks) := by
  have shown := Wall.toInstant?_zero ⟨newYear.ticks⟩
  obtain ⟨-, -, -, -, -, twenty, -, -, ordered, whole⟩ := timestamps_ordered newYearEvent shown newYearNext
  exact ⟨shown, twenty.mpr (by decide), (ordered (by decide)).trans (whole (by decide) (by decide))⟩

/-- Not all timestamps have twenty characters, and not all are ordered as time is. -/
theorem not_all_timestamps_padded : (¬ ∀ t : Instant, t.timestamp.length = 20)
    ∧ ¬ ∀ t t' : Instant, t.timestamp < t'.timestamp ↔ t.ticks < t'.ticks := by
  constructor
  · intro all
    have length := all yearNine
    rw [Instant.length_timestamp] at length
    revert length
    decide
  · intro all
    have wrong := (all yearNine yearTen).mpr (by decide)
    rw [Instant.timestamp_lt_iff] at wrong
    revert wrong
    decide

end FeedSieve.Output
