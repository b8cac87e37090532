import FeedSieve.Proofs.Time.Instant
import FeedSieve.Time.Moment

/-!
# Moments at a known offset and their timestamps

A reading at a known offset is an instant of its own, whatever zone is named beside it. Its timestamp is made
of digits and marks, so that it is read in one way only, although the year is as wide as it happens to be
(`timestamp_eq_iff`). Main statement: `anchored_denotes`.
-/
namespace FeedSieve.Time

/-! ## Digits up to a mark -/

/-- Digits that are followed by a mark end there. -/
theorem takeWhile_padded (width n : Nat) {mark : Char} (stops : mark.isDigit = false) (rest : List Char) :
    ((padded width n).toList ++ mark :: rest).takeWhile Char.isDigit = (padded width n).toList := by
  rw [List.takeWhile_append_of_pos (plain_padded width n), List.takeWhile_cons_of_neg (by simp [stops]),
    List.append_nil]

/-- A text that begins with a number and a mark does so in one way. -/
theorem padded_append_inj {width width' n n' : Nat} {mark : Char} (stops : mark.isDigit = false)
    {rest rest' : List Char}
    (same : (padded width n).toList ++ mark :: rest = (padded width' n').toList ++ mark :: rest') :
    n = n' ∧ rest = rest' := by
  have digits : (padded width n).toList = (padded width' n').toList := by
    rw [← takeWhile_padded width n stops rest, same, takeWhile_padded width' n' stops rest']
  refine ⟨eq_of_toList_padded digits, ?_⟩
  rw [digits] at same
  exact List.tail_eq_of_cons_eq (List.append_cancel_left same)

theorem padded_zero (n : Nat) : padded 0 n = toString n := by
  rw [padded, Nat.zero_sub]
  exact String.empty_append

/-! ## The text of an instant -/

/-- The six numbers of a timestamp with the marks behind them. -/
theorem Instant.toList_timestamp (t : Instant) : t.timestamp.toList =
    (padded 0 t.ticks.fields.date.year).toList ++ '-' :: ((padded 2 t.ticks.fields.date.month).toList
    ++ '-' :: ((padded 2 t.ticks.fields.date.day).toList ++ 'T' :: ((padded 2 t.ticks.fields.hour).toList
    ++ ':' :: ((padded 2 t.ticks.fields.minute).toList ++ ':' :: ((padded 2 t.ticks.fields.second).toList
    ++ 'Z' :: []))))) := by
  simp [timestamp, Fields.clock, padded_zero]

/-- The fields of a count, to the second, are those of its seconds. -/
theorem Ticks.fields_eq_of_seconds (t : Ticks) :
    t.fields.date = Date.ofNumber (t.val / Time.second / 86400)
    ∧ t.fields.hour = t.val / Time.second % 86400 / 3600
    ∧ t.fields.minute = t.val / Time.second % 86400 / 60 % 60
    ∧ t.fields.second = t.val / Time.second % 86400 % 60 := by
  have days : t.val / day = t.val / Time.second / 86400 := by
    rw [day, Time.second]
    omega
  have rest : t.val % day / Time.second = t.val / Time.second % 86400 := by
    rw [day, Time.second]
    omega
  rw [fields_eq]
  dsimp only
  rw [days, rest]
  exact ⟨rfl, rfl, rfl, rfl⟩

/-- The seconds of a count are those that its fields name. -/
theorem Ticks.seconds_eq_of_fields (t : Ticks) : t.val / Time.second
    = t.fields.date.number * 86400 + t.fields.hour * 3600 + t.fields.minute * 60 + t.fields.second := by
  obtain ⟨date, hour, minute, second⟩ := t.fields_eq_of_seconds
  rw [date, hour, minute, second, Date.number_ofNumber]
  omega

/-- Two instants have the same timestamp exactly if they are in the same second. -/
theorem Instant.timestamp_eq_iff (t t' : Instant) : t.timestamp = t'.timestamp ↔ t.seconds = t'.seconds := by
  constructor
  · intro same
    have texts := congrArg String.toList same
    rw [toList_timestamp, toList_timestamp] at texts
    obtain ⟨year, texts⟩ := padded_append_inj (by decide) texts
    obtain ⟨month, texts⟩ := padded_append_inj (by decide) texts
    obtain ⟨day, texts⟩ := padded_append_inj (by decide) texts
    obtain ⟨hour, texts⟩ := padded_append_inj (by decide) texts
    obtain ⟨minute, texts⟩ := padded_append_inj (by decide) texts
    obtain ⟨second, -⟩ := padded_append_inj (by decide) texts
    have date : t.ticks.fields.date = t'.ticks.fields.date := by
      cases here : t.ticks.fields.date
      cases there : t'.ticks.fields.date
      simp_all
    rw [seconds, seconds, Ticks.seconds_eq_of_fields, Ticks.seconds_eq_of_fields, date, hour, minute, second]
  · intro same
    obtain ⟨date, hour, minute, second⟩ := t.ticks.fields_eq_of_seconds
    obtain ⟨date', hour', minute', second'⟩ := t'.ticks.fields_eq_of_seconds
    rw [seconds, seconds] at same
    have texts : t.timestamp.toList = t'.timestamp.toList := by
      rw [toList_timestamp, toList_timestamp, date, hour, minute, second, date', hour', minute', second', same]
    exact String.toList_injective texts

/-! ## Readings at a known offset -/

/-- A reading at a known offset is converted without a report and without regard to the zone named beside it.
The result is the same point in time on the clock of UTC, and it is missing exactly if that lies outside the
years 1 to 9999; to convert it again changes nothing. The timestamps of two readings are equal exactly if both
are in the same second of UTC. -/
theorem anchored_denotes [ZoneLibrary] (w w' : Wall) (offset offset' : Int) (name name' : ZoneName) :
    ((Moment.anchored w offset).toUtc name).entries = []
    ∧ (Moment.anchored w offset).toUtc name = (Moment.anchored w offset).toUtc name'
    ∧ (((Moment.anchored w offset).toUtc name).value = none
        ↔ ¬ (0 ≤ w.utcCount offset ∧ w.utcCount offset < span))
    ∧ (∀ t, ((Moment.anchored w offset).toUtc name).value = some t →
        (t.ticks.val : Int) = w.utcCount offset
        ∧ (Moment.anchored ⟨t.ticks⟩ 0).toUtc name' = pure (some t))
    ∧ (∀ t t', ((Moment.anchored w offset).toUtc name).value = some t →
        ((Moment.anchored w' offset').toUtc name').value = some t' →
        (t.timestamp = t'.timestamp
          ↔ w.utcCount offset / Time.second = w'.utcCount offset' / Time.second)) := by
  refine ⟨rfl, rfl, Wall.toInstant?_eq_none_iff, fun t reached => ?_, fun t t' reached reached' => ?_⟩
  · refine ⟨Wall.toInstant?_eq_some_iff.mp reached, ?_⟩
    rw [Moment.toUtc, Wall.toInstant?_zero]
  · have seconds := Wall.seconds_of_toInstant? reached
    have seconds' := Wall.seconds_of_toInstant? reached'
    rw [Instant.timestamp_eq_iff, Wall.utcCount_div, Wall.utcCount_div, ← seconds, ← seconds', Int.ofNat_inj]

/-- Half an hour before the year 1000, on a clock an hour behind UTC. -/
def beforeMillennium : Wall := ⟨⟨31525371000500000, by decide⟩⟩

/-- Half past five in the year 1000, on a clock five hours ahead of UTC. -/
def afterMillennium : Wall := ⟨⟨31525392600250000, by decide⟩⟩

/-- Both are half past midnight of UTC, to the second. -/
theorem anchored_denotes_millennium : ∃ t t',
    ((Moment.anchored beforeMillennium (-3600)).toUtc .none).value = some t
    ∧ ((Moment.anchored afterMillennium 18000).toUtc (.one "Europe/Berlin")).value = some t'
    ∧ (t.ticks.val : Int) = beforeMillennium.utcCount (-3600) ∧ t ≠ t' ∧ t.timestamp = t'.timestamp := by
  have reached : ((Moment.anchored beforeMillennium (-3600)).toUtc .none).value
      = some ⟨⟨31525374600500000, by decide⟩⟩ := by decide
  have reached' : ((Moment.anchored afterMillennium 18000).toUtc (.one "Europe/Berlin")).value
      = some ⟨⟨31525374600250000, by decide⟩⟩ := by decide
  obtain ⟨-, -, -, same, timestamps⟩ := anchored_denotes beforeMillennium afterMillennium (-3600) 18000
    .none (.one "Europe/Berlin")
  exact ⟨_, _, reached, reached', (same _ reached).1, by decide,
    (timestamps _ _ reached reached').mpr (by decide)⟩

end FeedSieve.Time
