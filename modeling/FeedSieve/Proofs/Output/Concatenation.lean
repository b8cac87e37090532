import FeedSieve.Proofs.Feed.Conservation
import FeedSieve.Proofs.Output.RoundTrip

/-!
# Several calendars in one text

Calendars that are written one after the other are read as so many calendars, and give what each of them
gives alone. Main statement: `normalize_sheets`.
-/
namespace FeedSieve

open ICalendar

namespace Output

/-- The entry of a written event is accepted or refused: all its dates can be read. -/
theorem not_hazard_entryOf [Time.ZoneLibrary] (e : Event) (f : Fault) : ¬ Event.Hazard (entryOf e) f := by
  obtain ⟨start, finish, stamp, created⟩ := reading_entryOf e
  intro hazard
  cases hazard with
  | start _ _ here =>
    rw [start] at here
    cases here
  | finish first _ _ _ here =>
    rw [finish first] at here
    cases here
  | stamp _ _ _ _ _ _ here =>
    rw [stamp] at here
    cases here
  | created _ _ _ _ _ _ _ here =>
    rw [created] at here
    cases here

/-- What is read of written events gives events again, fewer perhaps, but never the end of the request. -/
theorem exists_eventsFrom_entries [Time.ZoneLibrary] (now : Time.Instant) (events : List Event) :
    ∃ kept, Feed.eventsFrom now (events.map entryOf) = .ok kept := by
  rw [Feed.eventsFrom]
  cases outcome : (Feed.outcomesOf now (events.map entryOf)).outcome with
  | ok result => exact ⟨result.1, rfl⟩
  | error e =>
    obtain ⟨f, -, first⟩ := (Feed.outcomesOf_error_iff now _ e).mp outcome
    obtain ⟨c, member, g, hazard⟩ := (Feed.firstHazard_iff _).mp ⟨f, first⟩
    obtain ⟨event, -, rfl⟩ := List.mem_map.mp member
    exact absurd hazard (not_hazard_entryOf event g)

/-- A written calendar gives what its entries give. -/
theorem outcome_text [Time.ZoneLibrary] [ZoneMaker] (zones : Registry) (d : Sheet) (now : Time.Instant) :
    (Feed.normalize zones d.text now).2.outcome = Feed.eventsFrom now (d.events.map entryOf) := by
  obtain ⟨parsed, entries⟩ := parseCalendars_renderCalendar zones d.prodid d.events
  rw [Sheet.text, Feed.normalize_of_parsed parsed, Feed.outcome_eventsOf, entries, Feed.eventsFrom]

/-- The texts of calendars, one after the other, are one feed of as many calendars, each the one that its
text is read as alone, and the events of the feed are those that each text gives alone, in order. -/
theorem normalize_sheets [Time.ZoneLibrary] [ZoneMaker] (zones again : Registry) (ds : List Sheet)
    (nonempty : ds ≠ []) (now : Time.Instant) :
    (∃ calendars : List (List Component),
      ds.mapM (fun d => (Feed.parseCalendars again d.text).2) = .ok calendars ∧
      Feed.parseCalendars zones (String.join (ds.map Sheet.text)) = (zones, .ok calendars.flatten) ∧
      calendars.flatten.length = ds.length) ∧
    (∃ results : List (List Event),
      ds.mapM (fun d => (Feed.normalize again d.text now).2.outcome) = .ok results ∧
      (Feed.normalize zones (String.join (ds.map Sheet.text)) now).2.outcome = .ok results.flatten) := by
  have parsed := parseCalendars_sheets zones nonempty
  constructor
  · have alone : (fun d : Sheet => (Feed.parseCalendars again d.text).2)
        = fun d => pure [d.calendar] := by
      funext d
      exact congrArg Prod.snd (parseCalendars_renderCalendar again d.prodid d.events).1
    have flat : (ds.map fun d => [d.calendar]).flatten = ds.map Sheet.calendar := by
      rw [← List.flatMap_def, List.map_eq_flatMap]
    refine ⟨ds.map fun d => [d.calendar], ?_, ?_, ?_⟩
    · rw [alone, List.mapM_pure]
      rfl
    · rw [flat, parsed]
    · rw [flat, List.length_map]
  · choose kept gives using fun d : Sheet => exists_eventsFrom_entries now d.events
    have alone : (fun d : Sheet => (Feed.normalize again d.text now).2.outcome)
        = fun d => Feed.eventsFrom now (d.events.map entryOf) := by
      funext d
      exact outcome_text again d now
    have each : ds.mapM (fun d => Feed.eventsFrom now (d.events.map entryOf)) = .ok (ds.map kept) := by
      have given : (fun d : Sheet => Feed.eventsFrom now (d.events.map entryOf)) = fun d => pure (kept d) := by
        funext d
        exact gives d
      rw [given, List.mapM_pure]
      rfl
    refine ⟨ds.map kept, by rw [alone, each], ?_⟩
    rw [Feed.normalize_of_parsed parsed, Feed.outcome_eventsOf, sourceEvents_sheets, ← Feed.eventsFrom,
      Feed.eventsFrom_flatMap, each]
    rfl

/-- A calendar with one event, and one without events. -/
def pathSheets : List Sheet := [⟨defaultProdid, [pathEvent]⟩, ⟨defaultProdid, []⟩]

/-- Both calendars are read, and the event of the first is the only one. -/
theorem normalize_sheets_pathSheets :
    pathSheets ≠ [] ∧
    (∃ calendars, Feed.parseCalendars [] (String.join (pathSheets.map Sheet.text)) = ([], .ok calendars) ∧
      calendars.length = 2) ∧
    (Feed.normalize [] (String.join (pathSheets.map Sheet.text)) pathNoon).2.outcome
      = .ok [pathEvent.settled] := by
  have nonempty : pathSheets ≠ [] := List.cons_ne_nil _ _
  obtain ⟨⟨calendars, -, parsed, count⟩, results, alone, together⟩ :=
    normalize_sheets [] [] pathSheets nonempty pathNoon
  have first := (normalize_written [] defaultProdid
    (by simpa using isWhole_pathEvent : ∀ e ∈ [pathEvent], e.IsWhole)
    (by decide : ∀ e ∈ [pathEvent], e.uid ≠ "" ∧ e.summary ≠ "") pathNoon).1
  have second := (normalize_written [] defaultProdid
    (by simp : ∀ e ∈ ([] : List Event), e.IsWhole) (by simp) pathNoon).1
  have given : pathSheets.mapM (fun d => (Feed.normalize [] d.text pathNoon).2.outcome)
      = .ok [[pathEvent.settled], []] := by
    simp only [pathSheets, List.mapM_cons, List.mapM_nil, Sheet.text, first, second]
    rfl
  rw [given] at alone
  cases alone
  exact ⟨nonempty, ⟨calendars.flatten, parsed, count⟩, together⟩

end Output

end FeedSieve
