import FeedSieve.Output.Calendar
import FeedSieve.Proofs.Feed.Document
import FeedSieve.Proofs.ICalendar.Datum
import FeedSieve.Proofs.Time.Names

/-!
# Calendars read as components

The lines of a calendar are followed one by one: a calendar is read as one component that holds the zone
of UTC, which is known already, and one entry for each event (`parseCalendars_renderCalendar`).
-/
namespace FeedSieve

open ICalendar

/-- An event as it is read after it was written. -/
def Event.settled (e : Event) : Event :=
  { e with
    uid := String.ofList (ICalendar.settled e.uid.toList)
    summary := String.ofList (ICalendar.settled e.summary.toList) }

namespace Output

/-! ## Single lines -/

theorem run_text [ZoneMaker] {name : String} (capital : Capital name.toList)
    (form : Form.ofName name = .text) (opens : name ≠ "BEGIN") (closes : name ≠ "END") (text : String)
    (c : Component) (outer closed : List Component) (zones : Registry) (more : List (List Char)) :
    Progress.run ⟨c :: outer, closed, zones⟩ (textLine name text :: more)
      = Progress.run ⟨c.addProperty (.plain name (String.ofList (settled text.toList))) :: outer,
          closed, zones⟩ more := by
  apply Progress.run_cons
  rw [textLine, Progress.step_named _ capital, unescape_escape, String.ofList_toList,
    Progress.readLine_property _ opens closes]
  exact Progress.addProperty_read rfl (ofLine_plain zones form _)

/-- The property of a written instant. -/
def instantProperty (name : String) (t : Time.Instant) : Property :=
  .dated name t.basic (.moment (.anchored ⟨t.ticks.whole⟩ 0))

theorem run_instant [ZoneMaker] {name : String} (capital : Capital name.toList)
    (form : Form.ofName name = .date) (opens : name ≠ "BEGIN") (closes : name ≠ "END")
    (t : Time.Instant) (c : Component) (outer closed : List Component) (zones : Registry)
    (more : List (List Char)) :
    Progress.run ⟨c :: outer, closed, zones⟩ (instantLine name t :: more)
      = Progress.run ⟨c.addProperty (instantProperty name t) :: outer, closed, zones⟩ more := by
  apply Progress.run_cons
  have unescaped := not_mem_basic (c := '\\') (by decide) (by decide) (by decide) t
  rw [instantLine, Progress.step_named _ capital, unescape_of_not_mem unescaped, String.ofList_toList,
    String.ofList_toList, Progress.readLine_property _ opens closes]
  exact Progress.addProperty_read rfl (ofLine_dated zones form (readDatum_basic t))

/-! ## Entries -/

/-- The entry that is read of a written event. -/
def entryOf (e : Event) : Component :=
  ⟨"VEVENT", [
    .plain "SUMMARY" e.settled.summary,
    instantProperty "DTSTART" e.start,
    instantProperty "DTEND" e.finish,
    instantProperty "DTSTAMP" e.stamp,
    .plain "UID" e.settled.uid,
    instantProperty "CREATED" e.created], []⟩

theorem run_eventLines [ZoneMaker] (e : Event) (c : Component) (outer closed : List Component)
    (zones : Registry) (more : List (List Char)) :
    Progress.run ⟨c :: outer, closed, zones⟩ (eventLines e ++ more)
      = Progress.run ⟨c.addChild (entryOf e) :: outer, closed, zones⟩ more := by
  have begins : "BEGIN:VEVENT".toList = Progress.namedLine ("BEGIN", "VEVENT") := rfl
  have ends : "END:VEVENT".toList = Progress.namedLine ("END", "VEVENT") := rfl
  simp only [eventLines, begins, ends, List.cons_append, List.nil_append]
  rw [Progress.run_opens (by decide) (by decide),
    run_text (by decide) rfl (by decide) (by decide),
    run_instant (by decide) rfl (by decide) (by decide),
    run_instant (by decide) rfl (by decide) (by decide),
    run_instant (by decide) rfl (by decide) (by decide),
    run_text (by decide) rfl (by decide) (by decide),
    run_instant (by decide) rfl (by decide) (by decide),
    Progress.run_closes (by decide) (by decide)]
  rfl

/-- The entries of events are put into the innermost component, in order. -/
theorem run_entries [ZoneMaker] (events : List Event) (c : Component) (outer closed : List Component)
    (zones : Registry) (more : List (List Char)) :
    Progress.run ⟨c :: outer, closed, zones⟩ (events.flatMap eventLines ++ more)
      = Progress.run ⟨{ c with children := c.children ++ events.map entryOf } :: outer, closed, zones⟩
          more := by
  induction events generalizing c with
  | nil =>
    cases c
    simp
  | cons e rest ih =>
    rw [List.flatMap_cons, List.append_assoc, run_eventLines, ih]
    simp [Component.addChild]

/-! ## The calendar -/

theorem named?_listed {id : String} (listed : (Time.Zone.find? id).isSome = true) (r : Registry) :
    (r.named? id).isSome = true := by
  unfold Registry.named?
  split
  · rfl
  · rw [Option.isSome_map, listed]

/-- The names and values of the lines of the zone of UTC. -/
def zoneFields : List (String × String) := [("BEGIN", "VTIMEZONE"), ("TZID", "UTC"),
  ("BEGIN", "STANDARD"), ("DTSTART", "19700329T020000"), ("TZNAME", "UTC"), ("TZOFFSETFROM", "+0000"),
  ("TZOFFSETTO", "+0000"), ("END", "STANDARD")]

theorem zoneLines_eq :
    zoneLines = zoneFields.map Progress.namedLine ++ [Progress.namedLine ("END", "VTIMEZONE")] := rfl

/-- The component that is read of the zone of UTC: one observance, from March 1970 on. -/
def zoneComponent : Component :=
  ⟨"VTIMEZONE", [.plain "TZID" "UTC"], [⟨"STANDARD", [
    .dated "DTSTART" "19700329T020000" (.moment (.floating ⟨⟨62143120800000000, by decide⟩⟩)),
    .plain "TZNAME" "UTC",
    .plain "TZOFFSETFROM" "+0000",
    .plain "TZOFFSETTO" "+0000"], []⟩]⟩

/-- The zone of UTC is known already, so that its lines define nothing. -/
theorem run_zoneLines [ZoneMaker] (c : Component) (outer closed : List Component) (zones : Registry)
    (more : List (List Char)) :
    Progress.run ⟨c :: outer, closed, zones⟩ (zoneLines ++ more)
      = Progress.run ⟨c.addChild zoneComponent :: outer, closed, zones⟩ more := by
  have listed : (Time.Zone.find? "UTC").isSome = true := by rw [Time.Zone.find?_utc]; rfl
  -- The zone is an open component until its last line, which looks up the identifier.
  have read : Progress.readLines ⟨c :: outer, closed, zones⟩ (zoneFields.map Progress.field)
      = .ok ⟨zoneComponent :: c :: outer, closed, zones⟩ := rfl
  rw [zoneLines_eq, List.append_assoc, Progress.run_named (by decide) read]
  apply Progress.run_cons
  rw [Progress.step_namedLine _ (by decide : Capital "END".toList)]
  exact Progress.define_known (rfl : zoneComponent.identifiers = [.plain "TZID" "UTC"])
    (named?_listed listed zones)

/-- The lines of a calendar: constant ones, the producer, and those of the events. -/
theorem calendarLines_eq (prodid : String) (events : List Event) :
    calendarLines prodid events
      = [("BEGIN", "VCALENDAR"), ("VERSION", "2.0")].map Progress.namedLine
        ++ textLine "PRODID" prodid
          :: ([("CALSCALE", "GREGORIAN"), ("METHOD", "PUBLISH")].map Progress.namedLine
        ++ (zoneLines ++ (events.flatMap eventLines ++ [Progress.namedLine ("END", "VCALENDAR")]))) := by
  rw [calendarLines, List.append_assoc, List.append_assoc]
  rfl

/-- The component that is read of a written calendar, before its zone and its entries. -/
def calendarHead (prodid : String) : Component :=
  ⟨"VCALENDAR", [
    .plain "VERSION" "2.0",
    .plain "PRODID" (String.ofList (settled prodid.toList)),
    .plain "CALSCALE" "GREGORIAN",
    .plain "METHOD" "PUBLISH"], []⟩

/-- The component that is read of a written calendar: it holds a zone and the entries of the events. -/
def calendarOf (prodid : String) (events : List Event) : Component :=
  { calendarHead prodid with children := zoneComponent :: events.map entryOf }

theorem run_calendarLines [ZoneMaker] (prodid : String) (events : List Event)
    (closed : List Component) (zones : Registry) (more : List (List Char)) :
    Progress.run ⟨[], closed, zones⟩ (calendarLines prodid events ++ more)
      = Progress.run ⟨[], closed ++ [calendarOf prodid events], zones⟩ more := by
  let version : Component := ⟨"VCALENDAR", [.plain "VERSION" "2.0"], []⟩
  let named := version.addProperty (.plain "PRODID" (String.ofList (settled prodid.toList)))
  have first : Progress.readLines ⟨[], closed, zones⟩
      ([("BEGIN", "VCALENDAR"), ("VERSION", "2.0")].map Progress.field)
        = .ok ⟨[version], closed, zones⟩ := rfl
  have second : Progress.readLines ⟨[named], closed, zones⟩
      ([("CALSCALE", "GREGORIAN"), ("METHOD", "PUBLISH")].map Progress.field)
        = .ok ⟨[calendarHead prodid], closed, zones⟩ := rfl
  simp only [calendarLines_eq, List.append_assoc, List.cons_append]
  rw [Progress.run_named (by decide) first, run_text (by decide) rfl (by decide) (by decide),
    Progress.run_named (by decide) second, run_zoneLines, run_entries]
  apply Progress.run_cons
  rw [Progress.step_namedLine _ (by decide : Capital "END".toList)]
  rfl

/-! ## Several calendars -/

structure Sheet where
  prodid : String
  events : List Event

namespace Sheet

def text (d : Sheet) : String := renderCalendar d.prodid d.events

def lines (d : Sheet) : List (List Char) := calendarLines d.prodid d.events

def calendar (d : Sheet) : Component := calendarOf d.prodid d.events

end Sheet

/-- Calendars one after the other are read one after the other: each leaves no component open, and none
of them defines a zone. -/
theorem run_sheets [ZoneMaker] (ds : List Sheet) (closed : List Component) (zones : Registry) :
    Progress.run ⟨[], closed, zones⟩ (ds.flatMap Sheet.lines)
      = (zones, .ok (closed ++ ds.map Sheet.calendar)) := by
  induction ds generalizing closed with
  | nil =>
    rw [List.map_nil, List.append_nil]
    rfl
  | cons d rest ih =>
    rw [List.flatMap_cons, Sheet.lines, run_calendarLines, ih, List.append_assoc]
    rfl

/-! ## The text -/

theorem bare_textLine {name : String} (capital : Capital name.toList) (text : String) :
    Bare (textLine name text) :=
  bare_line capital (fun member => (not_break_of_mem_escapeChars member).2 rfl)
    fun member => (not_break_of_mem_escapeChars member).1 rfl

theorem bare_instantLine {name : String} (capital : Capital name.toList) (t : Time.Instant) :
    Bare (instantLine name t) :=
  bare_line capital (not_mem_basic (by decide) (by decide) (by decide) t)
    (not_mem_basic (by decide) (by decide) (by decide) t)

theorem bare_eventLines (e : Event) : ∀ line ∈ eventLines e, Bare line := by
  have marks := bare_namedLines
    (by decide : ∀ l ∈ [("BEGIN", "VEVENT"), ("END", "VEVENT")], Plain l)
  intro line member
  simp only [eventLines, List.mem_cons, List.not_mem_nil, or_false] at member
  rcases member with rfl | rfl | rfl | rfl | rfl | rfl | rfl | rfl
  · exact marks _ (List.mem_map.mpr ⟨("BEGIN", "VEVENT"), by simp, rfl⟩)
  · exact bare_textLine (by decide) e.summary
  · exact bare_instantLine (by decide) e.start
  · exact bare_instantLine (by decide) e.finish
  · exact bare_instantLine (by decide) e.stamp
  · exact bare_textLine (by decide) e.uid
  · exact bare_instantLine (by decide) e.created
  · exact marks _ (List.mem_map.mpr ⟨("END", "VEVENT"), by simp, rfl⟩)

/-- No text of an event or of the producer breaks its line. -/
theorem bare_calendarLines (prodid : String) (events : List Event) :
    ∀ line ∈ calendarLines prodid events, Bare line := by
  rw [calendarLines_eq, zoneLines_eq]
  intro line member
  simp only [List.mem_append, List.mem_cons (a := line) (b := textLine "PRODID" prodid)] at member
  rcases member with first | producer | second | (zone | zoneEnd) | entry | last
  · exact bare_namedLines (by decide) line first
  · rw [producer]
    exact bare_textLine (by decide) prodid
  · exact bare_namedLines (by decide) line second
  · exact bare_namedLines (by decide) line zone
  · exact bare_namedLines (by decide : ∀ l ∈ [("END", "VTIMEZONE")], Plain l) line zoneEnd
  · obtain ⟨e, -, inside⟩ := List.mem_flatMap.mp entry
    exact bare_eventLines e line inside
  · exact bare_namedLines (by decide : ∀ l ∈ [("END", "VCALENDAR")], Plain l) line last

/-- The text of several calendars is that of their lines. -/
theorem toList_sheets (ds : List Sheet) :
    (String.join (ds.map Sheet.text)).toList = (ds.flatMap Sheet.lines).flatMap fold := by
  rw [String.toList_join, List.flatMap_map, List.flatMap_assoc]
  refine congrArg (ds.flatMap ·) (funext fun d => ?_)
  rw [Sheet.text, renderCalendar, String.toList_ofList, Sheet.lines]

theorem lines_sheets (ds : List Sheet) :
    lines (String.join (ds.map Sheet.text)).toList = ds.flatMap Sheet.lines := by
  rw [toList_sheets, lines_fold]
  intro line member
  obtain ⟨d, -, inside⟩ := List.mem_flatMap.mp member
  exact (bare_calendarLines d.prodid d.events line inside).toSeparable

/-- A calendar begins with no byte-order mark. -/
theorem dropMark_sheets (ds : List Sheet) :
    Feed.dropMark (String.join (ds.map Sheet.text)).toList
      = (String.join (ds.map Sheet.text)).toList := by
  apply Feed.dropMark_of_unmarked
  rw [toList_sheets]
  cases ds with
  | nil => simp
  | cons d rest =>
    have begins := Feed.head?_folded 'B' "EGIN:VCALENDAR".toList
    rw [List.flatMap_cons, Sheet.lines, calendarLines_eq]
    exact fun marked => absurd ((begins _).symm.trans marked) (by decide)

/-- Calendars that are written one after the other are read as these calendars, whatever zones are known
before. From the second calendar on, the zone of UTC comes after entries, so that all of them are read once
more; since no zone was defined, that gives the same. -/
theorem parseCalendars_sheets [ZoneMaker] (zones : Registry) {ds : List Sheet} (nonempty : ds ≠ []) :
    Feed.parseCalendars zones (String.join (ds.map Sheet.text)) = (zones, .ok (ds.map Sheet.calendar)) := by
  have ran := run_sheets ds [] zones
  rw [List.nil_append] at ran
  have read : readComponents zones (Feed.dropMark (String.join (ds.map Sheet.text)).toList)
      = (zones, .ok (ds.map Sheet.calendar)) := by
    rw [dropMark_sheets, readComponents, lines_sheets, ran]
    dsimp only
    rw [ran]
    exact ite_self _
  refine Feed.parseCalendars_of_read read ?_ (by simpa using nonempty)
  apply List.filter_eq_self.mpr
  intro c member
  obtain ⟨d, -, rfl⟩ := List.mem_map.mp member
  rfl

/-- The entries of written calendars are those of their events. -/
theorem sourceEvents_sheets (ds : List Sheet) :
    Feed.sourceEvents (ds.map Sheet.calendar) = ds.flatMap fun d => d.events.map entryOf := by
  rw [Feed.sourceEvents, List.flatMap_map]
  refine congrArg (ds.flatMap ·) (funext fun d => ?_)
  change (zoneComponent :: d.events.map entryOf).filter _ = _
  rw [List.filter_cons_of_neg (by decide)]
  apply List.filter_eq_self.mpr
  intro c member
  obtain ⟨e, -, rfl⟩ := List.mem_map.mp member
  rfl

/-- A written calendar is read as one calendar with the entries of its events, and defines no zone. -/
theorem parseCalendars_renderCalendar [ZoneMaker] (zones : Registry) (prodid : String)
    (events : List Event) :
    Feed.parseCalendars zones (renderCalendar prodid events) = (zones, .ok [calendarOf prodid events]) ∧
      Feed.sourceEvents [calendarOf prodid events] = events.map entryOf := by
  have parsed := parseCalendars_sheets zones (List.cons_ne_nil ⟨prodid, events⟩ [])
  have entries := sourceEvents_sheets [⟨prodid, events⟩]
  have alone : String.join ([⟨prodid, events⟩].map Sheet.text) = renderCalendar prodid events := by
    simp [Sheet.text]
  rw [List.flatMap_singleton] at entries
  rw [alone] at parsed
  exact ⟨parsed, entries⟩

end Output

end FeedSieve
