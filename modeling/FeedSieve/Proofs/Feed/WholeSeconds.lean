import FeedSieve.Proofs.Feed.Isolation
import FeedSieve.Proofs.ICalendar.Document
import FeedSieve.Proofs.Time.Instant

/-!
# Events are on whole seconds

A date that a calendar gives has no fraction of a second, and no conversion brings one in. So the events
of a feed are on whole seconds when the time of processing is (`normalize_isWhole`).
-/
namespace FeedSieve

open ICalendar

namespace Time

/-- The reading of a moment, if it has one, has no fraction of a second. -/
def Moment.IsWhole : Moment → Prop
  | .date _ => True
  | .floating w => w.ticks.IsWhole
  | .anchored w _ => w.ticks.IsWhole
  | .adrift w _ => w.ticks.IsWhole

theorem isWhole_midnight? {d : Date} {w : Wall} (h : d.midnight? = some w) : w.ticks.IsWhole :=
  isWhole_of_wall? h

section Library

variable [ZoneLibrary]

theorem isWhole_timeline {z : Timeline} {w : Wall} {t : Instant} (whole : w.ticks.IsWhole)
    (h : z.toInstant? w = some t) : t.ticks.IsWhole := by
  obtain ⟨offset, -, moved⟩ := Option.bind_eq_some_iff.mp h
  exact isWhole_toInstant? whole moved

theorem isWhole_inZone {w : Wall} {name : ZoneName} {t : Instant} (whole : w.ticks.IsWhole)
    (h : (w.inZone name).value = some t) : t.ticks.IsWhole := by
  unfold Wall.inZone at h
  split at h
  · cases h
  · exact isWhole_timeline whole h

theorem Moment.isWhole_toUtc {m : Moment} {name : ZoneName} {t : Instant} (whole : m.IsWhole)
    (h : (m.toUtc name).value = some t) : t.ticks.IsWhole := by
  cases m with
  | anchored w offset => exact isWhole_toInstant? whole h
  | adrift w cause => cases h
  | floating w => exact isWhole_inZone whole h
  | date d =>
    unfold toUtc at h
    dsimp only at h
    cases midnight : d.midnight? with
    | none =>
      rw [midnight] at h
      cases h
    | some w =>
      rw [midnight] at h
      exact isWhole_inZone (isWhole_midnight? midnight) h

end Library

end Time

namespace ICalendar

/-- A value that is a moment has no fraction of a second. -/
def Datum.IsWhole : Datum → Prop
  | .moment m => m.IsWhole
  | _ => True

/-- A reading of a clock is whole if it is. -/
theorem isWhole_moment {w : Time.Wall} (whole : w.ticks.IsWhole) (clock : Clock) : (clock.moment w).IsWhole := by
  unfold Clock.moment
  split <;> exact whole

theorem isWhole_readWall? {s : List Char} {w : Time.Wall} (h : readWall? s = some w) :
    w.ticks.IsWhole := by
  unfold readWall? at h
  split at h
  · cases h
  · simp only [Option.bind_eq_bind, Option.bind_eq_some_iff] at h
    obtain ⟨year, -, month, -, day, -, hour, -, minute, -, second, -, valid⟩ := h
    exact Time.isWhole_of_wall? valid

theorem isWhole_readDateTime {setting : Setting} {s : List Char} {m : Time.Moment}
    (h : readDateTime setting s = .ok m) : m.IsWhole := by
  unfold readDateTime at h
  dsimp only at h
  split at h
  · rename_i read moment
    cases h
    obtain ⟨w, wall, chosen⟩ := Option.bind_eq_some_iff.mp moment
    have whole := isWhole_readWall? wall
    split at chosen
    · cases chosen
    · cases chosen
      exact isWhole_moment whole _
    · split at chosen
      · cases chosen
        exact whole
      · split at chosen
        · cases chosen
          exact whole
        · cases chosen
  · cases h

theorem isWhole_readDate {setting : Setting} {s : List Char} {m : Time.Moment}
    (h : readDate setting s = .ok m) : m.IsWhole := by
  unfold readDate at h
  split at h
  · cases h
  · split at h
    · cases h
    · cases h
      trivial
    · split at h
      · rename_i midnight
        cases h
        exact isWhole_moment (Time.isWhole_midnight? midnight) _
      · cases h

theorem isWhole_readTime {s : List Char} {d : Datum} (h : readTime s = .ok d) : d.IsWhole := by
  unfold readTime at h
  dsimp only at h
  generalize (if (afterLast ':' s).getLast? = some 'Z' then (afterLast ':' s).dropLast
    else afterLast ':' s) = body at h
  split at h
  · injection h with same
    rw [← same]
    trivial
  · cases h

theorem isWhole_readSimple {setting : Setting} {s : List Char} {d : Datum}
    (h : readSimple setting s = .ok d) : d.IsWhole := by
  unfold readSimple at h
  split at h
  · obtain ⟨seconds, -, rfl⟩ := Traced.map_eq_ok_iff.mp h
    trivial
  · split at h
    · obtain ⟨m, read, rfl⟩ := Traced.map_eq_ok_iff.mp h
      exact isWhole_readDateTime read
    · split at h
      · obtain ⟨m, read, rfl⟩ := Traced.map_eq_ok_iff.mp h
        exact isWhole_readDate read
      · split at h
        · exact isWhole_readTime h
        · cases h

theorem isWhole_readDatum {setting : Setting} {s : List Char} {d : Datum}
    (h : readDatum setting s = .ok d) : d.IsWhole := by
  unfold readDatum at h
  split at h
  · unfold readPeriod at h
    split at h
    · split at h
      · cases h
        trivial
      · cases h
    · cases h
  · exact isWhole_readSimple h

/-- The date that a property holds has no fraction of a second. -/
def Property.IsWhole (p : Property) : Prop :=
  ∀ d length zone, p.content = .dated (some d) length zone → d.IsWhole

/-- Every property that a line gives is on whole seconds. -/
theorem isWhole_ofLine (r : Registry) (l : ContentLine) : (Property.ofLine r l).1.IsWhole := by
  intro d length zone content
  unfold Property.ofLine at content
  split at content
  · rename_i text content' read
    cases content
    unfold readContent at read
    dsimp only at read
    cases form : Form.ofLine l with
    | text =>
      rw [form] at read
      cases read
    | date =>
      rw [form] at read
      obtain ⟨d', datum, same⟩ := Traced.map_eq_ok_iff.mp read
      cases same
      obtain ⟨d'', datum, same⟩ := Traced.bind_eq_ok_iff.mp datum
      cases same
      exact isWhole_readDatum datum
    | _ =>
      rw [form] at read
      obtain ⟨_, -, plain⟩ := Traced.map_eq_ok_iff.mp read
      cases plain
  · cases content

end ICalendar

namespace Event

/-- The four instants of an event have no fraction of a second. -/
structure IsWhole (e : Event) : Prop where
  stamp : e.stamp.ticks.IsWhole
  created : e.created.ticks.IsWhole
  start : e.start.ticks.IsWhole
  finish : e.finish.ticks.IsWhole

theorem isWhole_lengthReading {p : Property} {start t : Time.Instant} (whole : start.ticks.IsWhole)
    (h : lengthReading p start = .instant t) : t.ticks.IsWhole := by
  unfold lengthReading at h
  split at h
  · cases h
  · cases h
  · cases h
  · split at h
    · rename_i seconds _
      cases added : start.add? seconds with
      | none =>
        rw [added] at h
        cases h
      | some t' =>
        rw [added] at h
        cases h
        exact Time.isWhole_add? whole added
    · cases h

section Library

variable [Time.ZoneLibrary]

theorem isWhole_dateReading {p : Property} {t : Time.Instant} (whole : p.IsWhole)
    (h : dateReading p = .instant t) : t.ticks.IsWhole := by
  unfold dateReading at h
  split at h
  · cases h
  · rename_i m length zone content
    cases converted : (m.toUtc zone).value with
    | none =>
      rw [converted] at h
      cases h
    | some t' =>
      rw [converted] at h
      cases h
      exact Time.Moment.isWhole_toUtc (whole _ length zone content) converted
  · cases h

theorem isWhole_reading {c : Component} {name : String} {t : Time.Instant}
    (whole : c.Every Property.IsWhole) (h : reading c name = .instant t) : t.ticks.IsWhole := by
  unfold reading at h
  split at h
  · cases h
  · rename_i p found
    exact isWhole_dateReading (whole.first? found) h

theorem isWhole_finishing {c : Component} {start t : Time.Instant} (whole : c.Every Property.IsWhole)
    (starts : start.ticks.IsWhole) (h : finishing c start = .instant t) : t.ticks.IsWhole := by
  unfold finishing at h
  split at h
  · rename_i p found
    exact isWhole_dateReading (whole.first? found) h
  · exact isWhole_lengthReading starts h
  · cases h

theorem isWhole_optional {c : Component} {name field : String} {t? : Option Time.Instant}
    {otherwise : Time.Instant} (whole : c.Every Property.IsWhole) (given : otherwise.ticks.IsWhole)
    (h : (reading c name).optional field = .ok t?) : (t?.getD otherwise).ticks.IsWhole := by
  cases read : reading c name with
  | absent =>
    rw [read] at h
    cases h
    exact given
  | instant t =>
    rw [read] at h
    cases h
    exact isWhole_reading whole read
  | _ =>
    rw [read] at h
    cases h

/-- What an entry's event says of its texts and instants. -/
theorem isWhole_ofEntry {c : Component} {now : Time.Instant} {e : Event}
    (whole : c.Every Property.IsWhole) (processed : now.ticks.IsWhole)
    (h : (ofEntry c now).outcome = .ok e) : e.IsWhole := by
  obtain ⟨-, -, starts, ends, ⟨stamp, stamped, stampIs⟩, created, made, createdIs⟩ := readings_of_ofEntry h
  have begun := isWhole_reading whole starts
  exact {
    stamp := stampIs ▸ isWhole_optional whole processed stamped
    created := createdIs ▸ isWhole_optional whole begun made
    start := begun
    finish := isWhole_finishing whole begun ends }

theorem texts_ofEntry {c : Component} {now : Time.Instant} {e : Event}
    (h : (ofEntry c now).outcome = .ok e) : e.uid ≠ "" ∧ e.summary ≠ "" := by
  have nonempty : ∀ {name text : String}, textReading c name = .ok text → text ≠ "" := by
    intro name text read
    unfold textReading at read
    split at read
    · split at read <;> cases read
      assumption
    · cases read
  obtain ⟨identified, titled, -⟩ := readings_of_ofEntry h
  exact ⟨nonempty identified, nonempty titled⟩

end Library

end Event

namespace Feed

/-- Every event of a feed is that of one of its entries. -/
theorem Accounted.source [Time.ZoneLibrary] {now : Time.Instant} {entries : List Component}
    {events : List Event} {warnings : List Log.Entry} (h : Accounted now entries events warnings) :
    ∀ e ∈ events, ∃ c ∈ entries, (Event.ofEntry c now).outcome = .ok e := by
  induction h with
  | nil => simp
  | kept c rest e events warnings accepts others ih =>
    intro d member
    rcases List.mem_cons.mp member with rfl | later
    · exact ⟨c, List.mem_cons_self, accepts⟩
    · obtain ⟨c', inside, source⟩ := ih d later
      exact ⟨c', List.mem_cons_of_mem c inside, source⟩
  | dropped c rest e events warnings refuses others ih =>
    intro d member
    obtain ⟨c', inside, source⟩ := ih d member
    exact ⟨c', List.mem_cons_of_mem c inside, source⟩

/-- The entries of a feed hold only dates on whole seconds. -/
theorem every_sourceEvents [ZoneMaker] {zones : Registry} {text : String} {calendars : List Component}
    (h : (parseCalendars zones text).2 = .ok calendars) :
    ∀ c ∈ sourceEvents calendars, c.Every Property.IsWhole := by
  unfold parseCalendars at h
  split at h
  · cases h
  · rename_i r cs read
    have every := every_readComponents isWhole_ofLine (congrArg Prod.snd read)
    intro c member
    obtain ⟨calendar, outer, inner⟩ := List.mem_flatMap.mp member
    split at h
    · cases h
    · cases h
      exact (every calendar (List.mem_filter.mp outer).1).children c (List.mem_filter.mp inner).1

section Normalize

variable [Time.ZoneLibrary] [ZoneMaker] {zones : Registry} {text : String} {now : Time.Instant}
  {events : List Event}

/-- The events of a feed are those of entries of calendars that were read. -/
theorem normalize_source (h : (normalize zones text now).2.outcome = .ok events) :
    ∀ e ∈ events, ∃ c, c.Every Property.IsWhole ∧ (Event.ofEntry c now).outcome = .ok e := by
  obtain ⟨calendars, parsed, returned⟩ := parsed_of_normalize h
  obtain ⟨dropped, counted⟩ := outcomesOf_of_eventsOf returned
  intro e member
  obtain ⟨c, inside, source⟩ := (outcomesOf_ok now _ _ dropped counted).source e member
  exact ⟨c, every_sourceEvents parsed c inside, source⟩

/-- The events of a feed are on whole seconds if the time of processing is. -/
theorem normalize_isWhole (processed : now.ticks.IsWhole)
    (h : (normalize zones text now).2.outcome = .ok events) : ∀ e ∈ events, e.IsWhole := by
  intro e member
  obtain ⟨c, whole, source⟩ := normalize_source h e member
  exact Event.isWhole_ofEntry whole processed source

/-- Every event of a feed has an identifier and a title. -/
theorem normalize_texts (h : (normalize zones text now).2.outcome = .ok events) :
    ∀ e ∈ events, e.uid ≠ "" ∧ e.summary ≠ "" := by
  intro e member
  obtain ⟨c, -, source⟩ := normalize_source h e member
  exact Event.texts_ofEntry source

end Normalize

end Feed

end FeedSieve
