import FeedSieve.Proofs.Event.Reading
import FeedSieve.Proofs.ICalendar.Datum
import FeedSieve.Proofs.Time.Moment

/-!
# Dates as starts and ends

A date has no clock of its own. It is taken as its midnight in the zone that stands beside it, so that it
becomes midnight of UTC where no zone is known, and elsewhere exactly if the zone puts this midnight at no
offset from UTC. Main statement: `date_normalized`.
-/
namespace FeedSieve

open ICalendar Time

/-! ## Midnight in a zone -/

/-- The zone that a name stands for puts a reading at no offset from UTC, and neither the name nor the reading
is refused. -/
structure OnUtc [ZoneLibrary] (name : ZoneName) (w : Wall) : Prop where
  accepted : name.fault? = none
  reaches : (resolve name).value.timeline.Reaches w
  takes : (resolve name).value.timeline.Takes w.seconds 0

section Midnight

variable [ZoneLibrary] {d : Date} {w : Wall} (midnight : d.midnight? = some w)

include midnight

theorem toUtc_date (name : ZoneName) : (Moment.date d).toUtc name = (Moment.floating w).toUtc name := by
  simp only [Moment.toUtc, midnight]

theorem toUtc_date_iff (name : ZoneName) :
    ((Moment.date d).toUtc name).value = some ⟨w.ticks⟩ ↔ OnUtc name w := by
  rw [toUtc_date midnight, Moment.toUtc]
  have table := (steady_resolve name).toInstant?_iff_takes (isWhole_of_wall? midnight) w.toInstant?_zero
  by_cases accepted : name.fault? = none
  · rw [inZone_of_accepted accepted, table]
    constructor
    · rintro ⟨reaches, takes⟩
      exact ⟨accepted, reaches, takes⟩
    · intro on
      exact ⟨on.reaches, on.takes⟩
  · have refused : ¬ OnUtc name w := fun on => accepted on.accepted
    rw [inZone_of_fault accepted]
    simp [refused]

/-- Where no zone is known a date is midnight of UTC. -/
theorem toUtc_date_of_unknown {name : ZoneName} (accepted : name.fault? = none)
    (unknown : ∀ id, name = .one id → knownZone? id = none) :
    ((Moment.date d).toUtc name).value = some ⟨w.ticks⟩ := by
  rw [toUtc_date midnight, Moment.toUtc, inZone_of_accepted accepted]
  rcases resolve_cases name with ⟨id, zone, named, known, -⟩ | ⟨-, same⟩
  · rw [unknown id named] at known
    cases known
  · rw [same, toInstant?_utc, w.toInstant?_zero]

end Midnight

namespace Event

/-! ## Dates of an entry -/

/-- The first property of a name holds a date beside the name of a zone. -/
def HoldsDate (c : Component) (field : String) (d : Date) (name : ZoneName) : Prop :=
  ∃ p length, c.first? field = some p ∧ p.content = .dated (some (.moment (.date d))) length name

/-- The line of a date is taken as midnight of UTC: if the line's zone was known when it was read, its clock
shows this midnight at no offset, and otherwise the zone that its name stands for does. -/
def LineOnUtc [ZoneLibrary] (r : Registry) (l : ContentLine) (w : Wall) : Prop :=
  match settingOf r l with
  | .unset => OnUtc (zoneNameOf l) w
  | .within clock => clock.offset w = .ok 0
  | .conflicting => False

/-- A reading at an offset is its own instant only at the offset of UTC. -/
theorem toInstant?_eq_self_iff (w : Wall) (offset : Int) :
    w.toInstant? offset = some ⟨w.ticks⟩ ↔ offset = 0 := Wall.offset_unique w.toInstant?_zero offset

variable {c : Component} {field : String} {d : Date} {w : Wall} {name : ZoneName}

theorem ofConversion_eq_instant_iff (cause : Fault) (t? : Option Instant) (t : Instant) :
    Reading.ofConversion cause t? = .instant t ↔ t? = some t := by
  cases t? <;> simp [Reading.ofConversion]

theorem reading_of_holdsDate [ZoneLibrary] (holds : HoldsDate c field d name) :
    reading c field
      = .ofConversion ((Moment.date d).failure name) ((Moment.date d).toUtc name).value := by
  obtain ⟨p, length, found, content⟩ := holds
  rw [reading_found found, dateReading, content]

theorem reading_eq_midnight_iff [ZoneLibrary] (midnight : d.midnight? = some w) (holds : HoldsDate c field d name) :
    reading c field = .instant ⟨w.ticks⟩ ↔ OnUtc name w := by
  rw [reading_of_holdsDate holds, ← toUtc_date_iff midnight]
  exact ofConversion_eq_instant_iff _ _ _

/-- A reading on a clock is its own instant only if the clock tells the offset of UTC. -/
theorem toUtc_moment_iff [ZoneLibrary] (clock : Clock) (w : Wall) (name : ZoneName) :
    ((clock.moment w).toUtc name).value = some ⟨w.ticks⟩ ↔ clock.offset w = .ok 0 := by
  unfold Clock.moment
  cases clock.offset w with
  | error cause => exact iff_of_false nofun nofun
  | ok offset =>
    rw [Except.ok.injEq]
    exact toInstant?_eq_self_iff w offset

/-- What the line of a date holds: a date that waits for its zone, or midnight on the clock of a known one. -/
theorem content_ofLine_day {r : Registry} {l : ContentLine} (form : Form.ofLine l = .date)
    (day : readDay? l.value.toList = some d) (midnight : d.midnight? = some w) :
    (Property.ofLine r l).1.content = match settingOf r l with
      | .unset => .dated (some (.moment (.date d))) (some (.moment (.date d))) (zoneNameOf l)
      | .within clock => .dated (some (.moment (clock.moment w))) (some (.moment (clock.moment w)))
          (zoneNameOf l)
      | .conflicting => .broken .zones := by
  rw [Property.ofLine, readContent, form]
  dsimp only
  rw [readDatum_of_day day, readDate, day]
  dsimp only
  cases settingOf r l with
  | unset => rfl
  | within clock =>
    dsimp only
    rw [midnight]
    rfl
  | conflicting => rfl

theorem reading_line_iff [ZoneLibrary] {r : Registry} {l : ContentLine} (form : Form.ofLine l = .date)
    (day : readDay? l.value.toList = some d) (midnight : d.midnight? = some w)
    (found : c.first? field = some (Property.ofLine r l).1) :
    reading c field = .instant ⟨w.ticks⟩ ↔ LineOnUtc r l w := by
  have content := content_ofLine_day (r := r) form day midnight
  unfold LineOnUtc
  cases setting : settingOf r l with
  | unset =>
    rw [setting] at content
    exact reading_eq_midnight_iff midnight ⟨_, _, found, content⟩
  | within clock =>
    rw [setting] at content
    rw [reading_found found, dateReading, content]
    exact (ofConversion_eq_instant_iff _ _ _).trans (toUtc_moment_iff clock w _)
  | conflicting =>
    rw [setting] at content
    rw [reading_found found, dateReading, content]
    simp

/-- A date is taken as its midnight in the zone that its name stands for, and so it is midnight of UTC exactly
if that zone puts this midnight at no offset from UTC and it is not refused; where no zone is known it always is.
This is so for the start and the end of an event, and for a line with a date also where its zone was known when it
was read. -/
theorem date_normalized [ZoneLibrary] (d : Date) (valid : d.Valid) : ∃ w, d.midnight? = some w
    ∧ w.ticks.val = d.number * Time.day
    ∧ (∀ name, (Moment.date d).toUtc name = (Moment.floating w).toUtc name
      ∧ (((Moment.date d).toUtc name).value = some ⟨w.ticks⟩ ↔ OnUtc name w)
      ∧ (name.fault? = none → (∀ id, name = .one id → knownZone? id = none) → OnUtc name w))
    ∧ (∀ c now e, (ofEntry c now).outcome = .ok e → ∀ name,
      (HoldsDate c "DTSTART" d name → (e.start = ⟨w.ticks⟩ ↔ OnUtc name w))
      ∧ (HoldsDate c "DTEND" d name → (e.finish = ⟨w.ticks⟩ ↔ OnUtc name w)))
    ∧ (∀ r l c field, Form.ofLine l = .date → readDay? l.value.toList = some d →
      c.first? field = some (Property.ofLine r l).1 →
      ((instant? c field).outcome = .ok (some ⟨w.ticks⟩) ↔ LineOnUtc r l w)) := by
  obtain ⟨w, midnight, ticks⟩ := d.exists_midnight valid
  refine ⟨w, midnight, ticks, fun name => ⟨toUtc_date midnight name, toUtc_date_iff midnight name, ?_⟩,
    fun c now e returns name => ⟨fun holds => ?_, fun holds => ?_⟩, fun r l c field form day found => ?_⟩
  · intro accepted unknown
    exact (toUtc_date_iff midnight name).mp (toUtc_date_of_unknown midnight accepted unknown)
  · obtain ⟨-, -, starts, -⟩ := readings_of_ofEntry returns
    rw [← reading_eq_midnight_iff midnight holds, starts, Reading.instant.injEq]
  · obtain ⟨-, -, -, ends, -⟩ := readings_of_ofEntry returns
    have stated : finishing c e.start = reading c "DTEND" := by
      obtain ⟨p, length, found, -⟩ := holds
      rw [finishing_found found, reading_found found]
    rw [← reading_eq_midnight_iff midnight holds, ← stated, ends, Reading.instant.injEq]
  · rw [outcome_instant?, ← reading_line_iff form day midnight found]
    cases reading c field <;> simp [Reading.optional]

/-! ## A day in Amsterdam -/

def winterDay : Date := ⟨2020, 1, 25⟩

def winterMidnight : Wall := ⟨⟨63715507200000000, by decide⟩⟩

/-- A line that ends an entry on that day. -/
def endLine : ContentLine := ⟨"DTEND", [⟨"VALUE", ["DATE"]⟩], "20200125"⟩

/-- An entry that starts on that day in Amsterdam and ends on it without a zone. -/
def winterEntry : Component := ⟨"VEVENT", [
  ⟨"UID", "a", .plain⟩,
  ⟨"SUMMARY", "x", .plain⟩,
  ⟨"DTSTART", "20200125", .dated (some (.moment (.date winterDay))) (some (.moment (.date winterDay)))
    (.one "Europe/Amsterdam")⟩,
  (Property.ofLine [] endLine).1], []⟩

theorem midnight?_winterDay : winterDay.midnight? = some winterMidnight := by decide

/-- In Amsterdam the day begins an hour earlier. -/
theorem toUtc_winterDay : ((Moment.date winterDay).toUtc (.one "Europe/Amsterdam")).value
    = some ⟨⟨63715503600000000, by decide⟩⟩ := by
  obtain ⟨listed, found, holds⟩ : ∃ zone, Zone.find? "Europe/Amsterdam" = some zone
      ∧ zone.timeline.toInstant? winterMidnight = some ⟨⟨63715503600000000, by decide⟩⟩ :=
    Zone.exists_of_check (by decide +kernel)
  obtain ⟨zone, known, same⟩ := exists_knownZone? found
  rw [toUtc_date midnight?_winterDay, toUtc_of_known known, same]
  exact holds

theorem readDay?_endLine : readDay? endLine.value.toList = some winterDay := by decide +kernel

theorem first?_winterEntry : winterEntry.first? "DTEND" = some (Property.ofLine [] endLine).1 := by
  have read : (Property.ofLine [] endLine).1 = ⟨"DTEND", "20200125",
      .dated (some (.moment (.date winterDay))) (some (.moment (.date winterDay))) .none⟩ := by
    decide +kernel
  rw [winterEntry, read]
  rfl

theorem lineOnUtc_endLine : LineOnUtc [] endLine winterMidnight :=
  (toUtc_date_iff midnight?_winterDay .none).mp (toUtc_date_of_unknown midnight?_winterDay rfl (by simp))

/-- The entry lasts an hour. -/
theorem outcome_winterEntry (now : Instant) : (ofEntry winterEntry now).outcome
    = .ok ⟨"a", "x", now, ⟨⟨63715503600000000, by decide⟩⟩, ⟨⟨63715503600000000, by decide⟩⟩,
        ⟨winterMidnight.ticks⟩⟩ := by
  have starts : reading winterEntry "DTSTART" = .instant ⟨⟨63715503600000000, by decide⟩⟩ := by
    rw [reading_of_holdsDate ⟨_, _, rfl, rfl⟩, toUtc_winterDay]
    rfl
  have ends (start : Instant) : finishing winterEntry start = .instant ⟨winterMidnight.ticks⟩ := by
    rw [finishing_found first?_winterEntry, ← reading_found first?_winterEntry]
    exact (reading_line_iff rfl readDay?_endLine midnight?_winterDay first?_winterEntry).mpr lineOnUtc_endLine
  rw [outcome_ofEntry, starts]
  simp only [Reading.required, Traced.ok_bind, ends]
  rfl

theorem date_normalized_winterDay :
    ∃ e, (ofEntry winterEntry ⟨winterMidnight.ticks⟩).outcome = .ok e
    ∧ e.start ≠ ⟨winterMidnight.ticks⟩ ∧ ¬ OnUtc (.one "Europe/Amsterdam") winterMidnight
    ∧ OnUtc .none winterMidnight
    ∧ (instant? winterEntry "DTEND").outcome = .ok (some ⟨winterMidnight.ticks⟩) := by
  obtain ⟨w, midnight, -, names, events, lines⟩ := date_normalized winterDay (by decide)
  rw [midnight?_winterDay] at midnight
  cases midnight
  have returns := outcome_winterEntry ⟨winterMidnight.ticks⟩
  have starts := (events winterEntry _ _ returns (.one "Europe/Amsterdam")).1 ⟨_, _, rfl, rfl⟩
  have early : Instant.mk ⟨63715503600000000, by decide⟩ ≠ ⟨winterMidnight.ticks⟩ := by decide
  have ends := lines [] endLine winterEntry "DTEND" rfl readDay?_endLine first?_winterEntry
  exact ⟨_, returns, early, fun onUtc => early (starts.mpr onUtc), (names .none).2.2 rfl (by simp),
    ends.mpr lineOnUtc_endLine⟩

/-- So not every date becomes midnight of UTC. -/
theorem not_all_dates_midnight : ¬ ∀ (d : Date) (name : ZoneName) (w : Wall), d.midnight? = some w →
    ((Moment.date d).toUtc name).value = some ⟨w.ticks⟩ := by
  intro all
  have midnight := all winterDay (.one "Europe/Amsterdam") winterMidnight midnight?_winterDay
  rw [toUtc_winterDay] at midnight
  exact absurd midnight (by decide)

end Event

end FeedSieve
