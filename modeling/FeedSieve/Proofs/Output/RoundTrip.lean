import FeedSieve.Proofs.Feed.WholeSeconds
import FeedSieve.Proofs.Output.Calendar

/-!
# Calendars read back

Each entry of a written calendar gives its event again, with what writing does to its texts. Main
statement: `normalize_renderCalendar`.
-/
namespace FeedSieve

open ICalendar

namespace Output

/-! ## Events -/

theorem settled_ne_empty {text : String} (h : text ≠ "") :
    String.ofList (settled text.toList) ≠ "" := by
  have nonempty : text.toList ≠ [] := by simpa using h
  simpa using settled_ne_nil nonempty

section Library

variable [Time.ZoneLibrary]

/-- A written instant is read as the whole second it lies in. -/
theorem dateReading_written (name : String) (t : Time.Instant) :
    Event.dateReading (instantProperty name t) = .instant ⟨t.ticks.whole⟩ := by
  have content : (instantProperty name t).content
      = .dated (some (.moment (.anchored ⟨t.ticks.whole⟩ 0)))
        (some (.moment (.anchored ⟨t.ticks.whole⟩ 0))) .none := rfl
  rw [Event.dateReading, content]
  simp only [Time.Moment.toUtc, Logged.value_pure, Time.Wall.toInstant?_zero]
  rfl

/-- The dates of a written entry are those of its event, in whole seconds. -/
theorem reading_entryOf (e : Event) :
    Event.reading (entryOf e) "DTSTART" = .instant ⟨e.start.ticks.whole⟩
    ∧ (∀ start, Event.finishing (entryOf e) start = .instant ⟨e.finish.ticks.whole⟩)
    ∧ Event.reading (entryOf e) "DTSTAMP" = .instant ⟨e.stamp.ticks.whole⟩
    ∧ Event.reading (entryOf e) "CREATED" = .instant ⟨e.created.ticks.whole⟩ :=
  ⟨(Event.reading_found rfl).trans (dateReading_written "DTSTART" e.start),
    fun start => (Event.finishing_found rfl start).trans (dateReading_written "DTEND" e.finish),
    (Event.reading_found rfl).trans (dateReading_written "DTSTAMP" e.stamp),
    (Event.reading_found rfl).trans (dateReading_written "CREATED" e.created)⟩

/-- The entry of a written event gives the event again. -/
theorem outcome_entryOf {e : Event} (whole : e.IsWhole) (texts : e.uid ≠ "" ∧ e.summary ≠ "")
    (now : Time.Instant) :
    (Event.ofEntry (entryOf e) now).outcome = .ok e.settled := by
  have identifier : (entryOf e).first? "UID" = some (.plain "UID" e.settled.uid) := rfl
  have title : (entryOf e).first? "SUMMARY" = some (.plain "SUMMARY" e.settled.summary) := rfl
  have uid := Event.textReading_found identifier (settled_ne_empty texts.1)
  have summary := Event.textReading_found title (settled_ne_empty texts.2)
  obtain ⟨start, finish, stamp, created⟩ := reading_entryOf e
  rw [Time.Ticks.whole_of_isWhole whole.start] at start
  rw [Time.Ticks.whole_of_isWhole whole.finish] at finish
  rw [Time.Ticks.whole_of_isWhole whole.stamp] at stamp
  rw [Time.Ticks.whole_of_isWhole whole.created] at created
  exact Event.outcome_ofEntry_complete uid summary start (finish e.start) stamp created now

/-- The entry of a written event reports nothing. -/
theorem entries_entryOf (e : Event) (now : Time.Instant) :
    (Event.ofEntry (entryOf e) now).entries = [] := by
  have silent : Event.Reports (fun _ => False) (entryOf e) := by
    intro p member m length zone content
    simp only [entryOf, List.mem_cons, List.not_mem_nil, or_false] at member
    rcases member with rfl | rfl | rfl | rfl | rfl | rfl <;> cases content <;>
      simp [Time.Moment.toUtc]
  exact List.eq_nil_iff_forall_not_mem.mpr (Event.ofEntry_only silent now)

theorem outcomesOf_entries {events : List Event} (whole : ∀ e ∈ events, e.IsWhole)
    (texts : ∀ e ∈ events, e.uid ≠ "" ∧ e.summary ≠ "") (now : Time.Instant) :
    (Feed.outcomesOf now (events.map entryOf)).outcome = .ok (events.map Event.settled, 0) ∧
      (Feed.outcomesOf now (events.map entryOf)).entries = [] := by
  induction events with
  | nil => exact ⟨rfl, rfl⟩
  | cons e rest ih =>
    obtain ⟨later, silent⟩ := ih (fun d member => whole d (List.mem_cons_of_mem e member))
      fun d member => texts d (List.mem_cons_of_mem e member)
    obtain ⟨first, reports⟩ := Feed.outcomeOf_accepted
      (outcome_entryOf (whole e List.mem_cons_self) (texts e List.mem_cons_self) now)
    rw [entries_entryOf] at reports
    rw [List.map_cons, Feed.outcomesOf_cons]
    constructor
    · rw [Traced.outcome_bind, first, Traced.ok_bind, Traced.outcome_map, later]
      rfl
    · rw [Traced.entries_bind_ok first, reports, Traced.entries_map, silent]
      rfl

/-- Events on whole seconds that have texts are read as they were written, in order, and nothing is
reported. -/
theorem normalize_written [ZoneMaker] (zones : Registry) (prodid : String) {events : List Event}
    (whole : ∀ e ∈ events, e.IsWhole) (texts : ∀ e ∈ events, e.uid ≠ "" ∧ e.summary ≠ "")
    (now : Time.Instant) :
    (Feed.normalize zones (renderCalendar prodid events) now).2.outcome
        = .ok (events.map Event.settled) ∧
      (Feed.normalize zones (renderCalendar prodid events) now).2.entries = [] := by
  obtain ⟨parsed, entries⟩ := parseCalendars_renderCalendar zones prodid events
  obtain ⟨outcome, silent⟩ := outcomesOf_entries whole texts now
  rw [Feed.normalize_of_parsed parsed]
  constructor
  · rw [Feed.outcome_eventsOf, entries, outcome]
    rfl
  · rw [Feed.eventsOf, entries, Traced.entries_bind_ok outcome, silent]
    rfl

end Library

/-- A text that writing and reading keeps. -/
def IsSettled (text : String) : Prop := '\r' ∉ text.toList ∧ ¬ ['\\', 'N'] <:+: text.toList

theorem settled_eq_self_iff_texts (e : Event) :
    e.settled = e ↔ IsSettled e.uid ∧ IsSettled e.summary := by
  have kept : ∀ text : String, String.ofList (settled text.toList) = text ↔ IsSettled text := by
    intro text
    rw [IsSettled, ← settled_eq_self_iff]
    constructor
    · intro same
      exact String.toList_ofList.symm.trans (congrArg String.toList same)
    · intro same
      rw [same, String.ofList_toList]
  rw [← kept, ← kept]
  constructor
  · intro same
    exact ⟨congrArg Event.uid same, congrArg Event.summary same⟩
  · rintro ⟨uid, summary⟩
    rw [Event.settled, uid, summary]

/-- The events of a feed, written as a calendar, are read again in order, with the same instants and
nothing dropped or reported. Texts come back with their carriage returns, and each backslash before a
capital `N` together with it, turned into line feeds, so that the events are the same exactly if no text
has either. -/
theorem normalize_renderCalendar [Time.ZoneLibrary] [ZoneMaker] (zones again : Registry)
    (text prodid : String) (now later : Time.Instant) (events : List Event)
    (processed : now.ticks.IsWhole)
    (normalized : (Feed.normalize zones text now).2.outcome = .ok events) :
    (Feed.normalize again (renderCalendar prodid events) later).2.outcome
        = .ok (events.map Event.settled) ∧
      (Feed.normalize again (renderCalendar prodid events) later).2.entries = [] ∧
      ((Feed.normalize again (renderCalendar prodid events) later).2.outcome = .ok events ↔
        ∀ e ∈ events, IsSettled e.uid ∧ IsSettled e.summary) := by
  obtain ⟨outcome, silent⟩ := normalize_written again prodid
    (Feed.normalize_isWhole processed normalized) (Feed.normalize_texts normalized) later
  refine ⟨outcome, silent, ?_⟩
  have kept : events.map Event.settled = events ↔ ∀ e ∈ events, e.settled = e := by
    simpa using List.map_inj_left (f := Event.settled) (g := id) (l := events)
  rw [outcome, Except.ok.injEq, kept]
  constructor
  · intro same e member
    exact (settled_eq_self_iff_texts e).mp (same e member)
  · intro settled e member
    exact (settled_eq_self_iff_texts e).mpr (settled e member)

/-! ## A text that does not come back -/

/-- A feed with a title in which a backslash stands before a capital `N`. -/
def pathTitle : List (String × String) := [("BEGIN", "VCALENDAR"), ("BEGIN", "VEVENT"), ("UID", "a"),
  ("SUMMARY", "C:\\\\New"), ("DTSTART", "20200101T000000Z"), ("DTEND", "20200101T010000Z"),
  ("END", "VEVENT"), ("END", "VCALENDAR")]

def pathNoon : Time.Instant := ⟨⟨63729374400000000, by decide⟩⟩

def pathEvent : Event :=
  ⟨"a", "C:\\New", pathNoon, ⟨⟨63713433600000000, by decide⟩⟩, ⟨⟨63713433600000000, by decide⟩⟩,
    ⟨⟨63713437200000000, by decide⟩⟩⟩

theorem normalize_pathTitle [Time.ZoneLibrary] [ZoneMaker] :
    (Feed.normalize [] (Feed.written pathTitle) pathNoon).2.outcome = .ok [pathEvent] := by
  obtain ⟨calendar, isCalendar, early, read, returned⟩ : ∃ calendar, calendar.name = "VCALENDAR" ∧
      definesLate [calendar] = false ∧
      Progress.readLines ⟨[], [], []⟩ (pathTitle.map Progress.field) = .ok ⟨[], [calendar], []⟩ ∧
      Prod.fst <$> (Feed.outcomesOf pathNoon (Feed.sourceEvents [calendar])).outcome
        = .ok [pathEvent] := ⟨_, rfl, rfl, rfl, rfl⟩
  have parsed := Feed.parse_written (by decide) read early rfl (by simp [isCalendar])
  rw [Feed.normalize_of_parsed parsed, Feed.outcome_eventsOf]
  simpa [isCalendar] using returned

theorem isWhole_pathEvent : pathEvent.IsWhole := ⟨by decide, by decide, by decide, by decide⟩

/-- The title of the event is another one after it was written and read. -/
theorem settled_pathEvent : pathEvent.settled ≠ pathEvent := by
  intro same
  have kept := ((settled_eq_self_iff_texts pathEvent).mp same).2.2
  exact kept ⟨"C:".toList, "ew".toList, by decide⟩

/-- The path comes back with a line feed in the place of its backslash and capital `N`. -/
theorem normalize_renderCalendar_pathTitle :
    pathNoon.ticks.IsWhole ∧
    (Feed.normalize [] (Feed.written pathTitle) pathNoon).2.outcome = .ok [pathEvent] ∧
    (Feed.normalize [] (renderCalendar defaultProdid [pathEvent]) pathNoon).2.outcome
      = .ok [{ pathEvent with summary := "C:\new" }] := by
  have whole : pathNoon.ticks.IsWhole := by decide
  refine ⟨whole, normalize_pathTitle, ?_⟩
  rw [(normalize_renderCalendar [] [] _ defaultProdid pathNoon pathNoon _ whole normalize_pathTitle).1]
  simp [Event.settled, pathEvent, settled, Text.replaceAll, plainBreaks]

/-- Not every list of events that a feed gives comes back as it was. -/
theorem not_all_events_come_back :
    ¬ ∀ (zones : Registry) (text prodid : String) (now : Time.Instant) (events : List Event),
      now.ticks.IsWhole → (Feed.normalize zones text now).2.outcome = .ok events →
        (Feed.normalize zones (renderCalendar prodid events) now).2.outcome = .ok events := by
  intro kept
  have again := kept [] (Feed.written pathTitle) defaultProdid pathNoon [pathEvent] (by decide)
    normalize_pathTitle
  have written := (normalize_written [] defaultProdid
    (by simpa using isWhole_pathEvent : ∀ e ∈ [pathEvent], e.IsWhole)
    (by decide : ∀ e ∈ [pathEvent], e.uid ≠ "" ∧ e.summary ≠ "") pathNoon).1
  rw [written, Except.ok.injEq] at again
  exact settled_pathEvent (List.singleton_inj.mp again)

end Output

end FeedSieve
