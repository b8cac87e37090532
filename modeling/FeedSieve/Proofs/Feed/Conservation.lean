import FeedSieve.Proofs.Feed.Isolation
import FeedSieve.Proofs.ICalendar.Parameter

/-!
# Entries are counted once

Of a feed that gives events, each entry is either kept or warned about, and the last report counts both.
What an entry contributes does not depend on the entries around it (`eventsFrom_around`). Main statement:
`normalize_conserves`.
-/
namespace FeedSieve.Feed

open ICalendar

section Library

variable [Time.ZoneLibrary]

def kept? (now : Time.Instant) (c : Component) : Option Event :=
  match (Event.ofEntry c now).outcome with
  | .ok e => some e
  | .error _ => none

def warning? (now : Time.Instant) (c : Component) : Option Log.Entry :=
  match (Event.ofEntry c now).outcome with
  | .error (.refused e) => some (droppingEntry c e)
  | _ => none

def isCount (e : Log.Entry) : Bool := e.event == "normalized_feed"

def countEntry (events dropped : Nat) : Log.Entry :=
  ⟨.info, "normalized_feed", [("events", .int events), ("dropped", .int dropped)]⟩

/-! ## Kept and dropped entries -/

section Accounted

variable {now : Time.Instant} {entries : List Component} {events : List Event}
  {warnings : List Log.Entry}

theorem Accounted.events_eq (h : Accounted now entries events warnings) :
    events = entries.filterMap (kept? now) := by
  induction h with
  | nil => rfl
  | kept c rest e _ _ accepts _ ih =>
    have own : kept? now c = some e := by rw [kept?, accepts]
    rw [List.filterMap_cons_some own, ih]
  | dropped c rest e _ _ refuses _ ih =>
    have own : kept? now c = none := by rw [kept?, refuses]
    rw [List.filterMap_cons_none own, ih]

theorem Accounted.warnings_eq (h : Accounted now entries events warnings) :
    warnings = entries.filterMap (warning? now) := by
  induction h with
  | nil => rfl
  | kept c rest e _ _ accepts _ ih =>
    have own : warning? now c = none := by rw [warning?, accepts]
    rw [List.filterMap_cons_none own, ih]
  | dropped c rest e _ _ refuses _ ih =>
    have own : warning? now c = some (droppingEntry c e) := by rw [warning?, refuses]
    rw [List.filterMap_cons_some own, ih]

theorem Accounted.length_add_length (h : Accounted now entries events warnings) :
    events.length + warnings.length = entries.length := by
  induction h with
  | nil => rfl
  | kept _ _ _ _ _ _ _ ih =>
    rw [List.length_cons, List.length_cons]
    omega
  | dropped _ _ _ _ _ _ _ ih =>
    rw [List.length_cons, List.length_cons]
    omega

end Accounted

/-- The number of dropped entries is that of the entries without an event. -/
theorem length_add_dropped {now : Time.Instant} {entries : List Component} {events : List Event}
    {dropped : Nat} (h : (outcomesOf now entries).outcome = .ok (events, dropped)) :
    events.length + dropped = entries.length := by
  induction entries generalizing events dropped with
  | nil =>
    cases h
    rfl
  | cons c rest ih =>
    rw [outcomesOf_cons, Traced.outcome_bind] at h
    obtain ⟨event, -, h⟩ := Traced.bind_eq_ok_iff.mp h
    rw [Traced.outcome_map] at h
    obtain ⟨⟨laterEvents, laterDropped⟩, later, same⟩ := Traced.map_eq_ok_iff.mp h
    have others : laterEvents.length + laterDropped = rest.length := ih later
    cases event with
    | some e =>
      cases same
      change (laterEvents.length + 1) + laterDropped = rest.length + 1
      omega
    | none =>
      cases same
      change laterEvents.length + (laterDropped + 1) = rest.length + 1
      omega

/-! ## The count -/

/-- Entries are counted after all of them, where any was dropped. -/
theorem filter_isCount_eventsOf {now : Time.Instant} {calendars : List Component}
    {events : List Event} {dropped : Nat}
    (h : (outcomesOf now (sourceEvents calendars)).outcome = .ok (events, dropped)) :
    (eventsOf now calendars).entries.filter isCount
      = if dropped = 0 then [] else [countEntry events.length dropped] := by
  have uncounted : (outcomesOf now (sourceEvents calendars)).Only fun e => isCount e = false :=
    outcomesOf_only (fun e zone => by simp [isCount, zone]) (fun e dropping => by simp [isCount, dropping])
      now _
  have before : (outcomesOf now (sourceEvents calendars)).entries.filter isCount = [] :=
    List.filter_eq_nil_iff.mpr fun e member => by simp [uncounted e member]
  rw [eventsOf, Traced.entries_bind_ok h, List.filter_append, before, List.nil_append]
  by_cases complete : dropped = 0
  · simp [complete]
  · simp [complete, isCount, countEntry]

/-! ## Entries and what surrounds them -/

/-- The events of entries, without the number of those that are dropped. -/
def eventsFrom (now : Time.Instant) (entries : List Component) : Except Failure (List Event) :=
  Prod.fst <$> (outcomesOf now entries).outcome

/-- What one entry adds to the events: one event, none, or the end of the request. -/
def contribution (now : Time.Instant) (c : Component) : Except Failure (List Event) :=
  Option.toList <$> (outcomeOf now c).outcome

theorem eventsFrom_cons (now : Time.Instant) (c : Component) (rest : List Component) :
    eventsFrom now (c :: rest) = do
      let own ← contribution now c
      let later ← eventsFrom now rest
      return own ++ later := by
  rw [eventsFrom, eventsFrom, contribution, outcomesOf_cons, Traced.outcome_bind]
  cases (outcomeOf now c).outcome with
  | error e => rfl
  | ok event =>
    rw [Traced.ok_bind, Traced.outcome_map]
    cases (outcomesOf now rest).outcome with
    | error e => rfl
    | ok result => cases event <;> rfl

theorem eventsFrom_append (now : Time.Instant) (before after : List Component) :
    eventsFrom now (before ++ after) = do
      let front ← eventsFrom now before
      let back ← eventsFrom now after
      return front ++ back := by
  induction before with
  | nil =>
    change eventsFrom now after = eventsFrom now after >>= fun back => pure ([] ++ back)
    simp
  | cons c rest ih =>
    rw [List.cons_append, eventsFrom_cons, eventsFrom_cons, ih]
    simp only [bind_assoc, pure_bind, List.append_assoc]

/-- The events of groups of entries are those of each group, put together. -/
theorem eventsFrom_flatMap {α : Type} (now : Time.Instant) (entries : α → List Component)
    (ds : List α) :
    eventsFrom now (ds.flatMap entries)
      = List.flatten <$> ds.mapM fun d => eventsFrom now (entries d) := by
  induction ds with
  | nil => rfl
  | cons d rest ih =>
    rw [List.flatMap_cons, eventsFrom_append, ih, List.mapM_cons]
    simp only [map_eq_pure_bind, bind_assoc, pure_bind, List.flatten_cons]

/-- An entry adds the same events wherever it stands, and takes nothing from those around it. -/
theorem eventsFrom_around (now : Time.Instant) (before : List Component) (c : Component)
    (after : List Component) :
    eventsFrom now (before ++ c :: after) = do
      let front ← eventsFrom now before
      let own ← contribution now c
      let back ← eventsFrom now after
      return front ++ (own ++ back) := by
  rw [eventsFrom_append, eventsFrom_cons]
  simp only [bind_assoc, pure_bind]

theorem contribution_refused {now : Time.Instant} {c : Component} {e : EntryError}
    (refuses : (Event.ofEntry c now).outcome = .error (.refused e)) : contribution now c = .ok [] := by
  rw [contribution, (outcomeOf_refused refuses).1]
  rfl

/-- A refused entry changes nothing about the events of the others. -/
theorem eventsFrom_insert {now : Time.Instant} {c : Component} {e : EntryError}
    (refuses : (Event.ofEntry c now).outcome = .error (.refused e)) (before after : List Component) :
    eventsFrom now (before ++ c :: after) = eventsFrom now (before ++ after) := by
  rw [eventsFrom_around, eventsFrom_append, contribution_refused refuses]
  rfl

end Library

/-! ## The whole feed -/

/-- The identifier of an entry: the text of its first one, and nothing where there is none. -/
def firstUid (c : Component) : Text.Json :=
  match c.first? "UID" with
  | some p => if p.text = "" then .null else .string p.text
  | none => .null

/-- An entry is reported by its first identifier, unless that was given as the number 0. -/
theorem shownUid_eq_iff (c : Component) :
    shownUid c = firstUid c ↔ ∀ p, c.first? "UID" = some p → p.text ≠ "" → p.content ≠ .number 0 := by
  unfold shownUid firstUid
  cases c.first? "UID" with
  | none => simp
  | some p =>
    by_cases empty : p.text = ""
    · simp [Property.isVoid, empty]
    · by_cases zero : p.content = .number 0 <;> simp [Property.isVoid, empty, zero]

/-- How the log of a feed accounts for its entries and its events. -/
structure Conserved [Time.ZoneLibrary] (now : Time.Instant) (entries : List Component) (events : List Event)
    (log : List Log.Entry) : Prop where
  kept : events = entries.filterMap (kept? now)
  warned : log.filter isDropping = entries.filterMap (warning? now)
  counted : events.length + (log.filter isDropping).length = entries.length
  summed : log.filter isCount = if log.filter isDropping = [] then []
    else [countEntry events.length (log.filter isDropping).length]

theorem conserved_of_eventsOf [Time.ZoneLibrary] {now : Time.Instant} {calendars : List Component}
    {events : List Event} (h : (eventsOf now calendars).outcome = .ok events) :
    Conserved now (sourceEvents calendars) events (eventsOf now calendars).entries := by
  obtain ⟨dropped, counted⟩ := outcomesOf_of_eventsOf h
  have accounted := outcomesOf_ok now _ _ dropped counted
  rw [← filter_isDropping_eventsOf] at accounted
  have warnings : ((eventsOf now calendars).entries.filter isDropping).length = dropped := by
    have ofWarnings := accounted.length_add_length
    have ofDropped := length_add_dropped counted
    omega
  refine ⟨accounted.events_eq, accounted.warnings_eq, accounted.length_add_length, ?_⟩
  rw [filter_isCount_eventsOf counted, ← warnings]
  simp only [List.length_eq_zero_iff]

/-- The events of a feed are those of its accepted entries, in order; each other entry is warned about, in
order, and the numbers of both are reported exactly where an entry is dropped. An entry contributes the
same wherever it stands, so that a refused one can be put anywhere. A warning shows the first identifier
of its entry, or nothing where that is the number 0. -/
theorem normalize_conserves [Time.ZoneLibrary] [ZoneMaker] (zones : Registry) (text : String)
    (now : Time.Instant) :
    (∀ events, (normalize zones text now).2.outcome = .ok events →
      ∃ calendars, (parseCalendars zones text).2 = .ok calendars ∧
        Conserved now (sourceEvents calendars) events (normalize zones text now).2.entries) ∧
    (∀ (before : List Component) (c : Component) (after calendars larger : List Component),
      sourceEvents calendars = before ++ after → sourceEvents larger = before ++ c :: after →
      ((eventsOf now larger).outcome = do
        let front ← eventsFrom now before
        let own ← contribution now c
        let back ← eventsFrom now after
        return front ++ (own ++ back)) ∧
      ∀ e, (Event.ofEntry c now).outcome = .error (.refused e) →
        (eventsOf now larger).outcome = (eventsOf now calendars).outcome) ∧
    (∀ c, shownUid c = firstUid c ↔
      ∀ p, c.first? "UID" = some p → p.text ≠ "" → p.content ≠ .number 0) := by
  refine ⟨?_, ?_, shownUid_eq_iff⟩
  · intro events returned
    obtain ⟨calendars, accepted, gives⟩ := parsed_of_normalize returned
    have parsed : parseCalendars zones text = ((parseCalendars zones text).1, .ok calendars) := by
      rw [← accepted]
    refine ⟨calendars, accepted, ?_⟩
    rw [normalize_of_parsed parsed]
    exact conserved_of_eventsOf gives
  · intro before c after calendars larger smallEntries largeEntries
    have around : (eventsOf now larger).outcome = eventsFrom now (before ++ c :: after) := by
      rw [outcome_eventsOf, largeEntries, eventsFrom]
    refine ⟨around.trans (eventsFrom_around now before c after), ?_⟩
    intro e refuses
    rw [around, eventsFrom_insert refuses, outcome_eventsOf, smallEntries, eventsFrom]

/-! ## An entry that is reported without its identifier -/

def numberedLine : List Char := "UID;VALUE=INTEGER:0".toList

def numberedHead : List (String × String) := [("BEGIN", "VCALENDAR"), ("BEGIN", "VEVENT")]

/-- The lines after it: its entry has no title, and a good entry follows. -/
def numberedRest : List (String × String) := [("DTSTART", "20200201T000000Z"),
  ("DTEND", "20200201T010000Z"), ("END", "VEVENT"),
  ("BEGIN", "VEVENT"), ("UID", "b"), ("SUMMARY", "y"), ("DTSTART", "20200201T000000Z"),
  ("DTEND", "20200201T010000Z"), ("END", "VEVENT"), ("END", "VCALENDAR")]

/-- A feed with an entry whose identifier is the number 0. -/
def numberedUid : String :=
  String.ofList ((numberedHead.map Progress.namedLine
    ++ numberedLine :: numberedRest.map Progress.namedLine).flatMap fold)

theorem parse_numberedLine :
    ContentLine.parse numberedLine = .ok ⟨"UID", [⟨"VALUE", ["INTEGER"]⟩], "0"⟩ := by
  have integer : Capital "INTEGER".toList := by decide
  exact ContentLine.parse_with (by decide : Capital "UID".toList) (by decide : Capital "VALUE".toList)
    integer.ordinary integer.nonempty ['0']

theorem lines_numberedUid : lines (dropMark numberedUid.toList)
    = numberedHead.map Progress.namedLine ++ numberedLine :: numberedRest.map Progress.namedLine := by
  have separable : Separable numberedLine :=
    ⟨by decide, 'U', _, rfl, by decide, by decide, by decide⟩
  have begins := head?_folded 'B' "EGIN:VCALENDAR".toList
  rw [numberedUid, String.toList_ofList, dropMark_of_unmarked, lines_fold]
  · intro line member
    rcases List.mem_append.mp member with before | after
    · exact separable_namedLines (by decide) line before
    · rcases List.mem_cons.mp after with rfl | behind
      · exact separable
      · exact separable_namedLines (by decide) line behind
  · exact fun marked => absurd ((begins _).symm.trans marked) (by decide)

def numberedNoon : Time.Instant := ⟨⟨63729460800000000, by decide⟩⟩

def numberedEvent : Event :=
  ⟨"b", "y", numberedNoon, ⟨⟨63716112000000000, by decide⟩⟩, ⟨⟨63716112000000000, by decide⟩⟩,
    ⟨⟨63716115600000000, by decide⟩⟩⟩

def numberedWarning : Log.Entry :=
  ⟨.warning, "dropping_event", [("uid", .null), ("reason", .string "missing required field: SUMMARY")]⟩

theorem parse_numberedUid [ZoneMaker] : ∃ calendar first second : Component,
    parseCalendars [] numberedUid = ([], .ok [calendar]) ∧ sourceEvents [calendar] = [first, second] ∧
    first.first? "UID" = some ⟨"UID", "0", .number 0⟩ ∧
    (Event.ofEntry first numberedNoon).outcome = .error (.refused (.missing "SUMMARY")) ∧
    (eventsOf numberedNoon [calendar]).outcome = .ok [numberedEvent] ∧
    (eventsOf numberedNoon [calendar]).entries = [numberedWarning, countEntry 1 1] := by
  -- Evaluation gives the components from the fields; that the lines of the text hold these fields is left
  -- to lemmas.
  obtain ⟨calendar, first, second, s, t, head, uid, rest, isCalendar, early, given⟩ :
      ∃ (calendar first second : Component) (s t : Progress),
      Progress.readLines ⟨[], [], []⟩ (numberedHead.map Progress.field) = .ok s ∧
      s.readLine ⟨"UID", [⟨"VALUE", ["INTEGER"]⟩], "0"⟩ = .ok t ∧
      t.readLines (numberedRest.map Progress.field) = .ok ⟨[], [calendar], []⟩ ∧
      calendar.name = "VCALENDAR" ∧ definesLate [calendar] = false ∧
      sourceEvents [calendar] = [first, second] ∧
      first.first? "UID" = some ⟨"UID", "0", .number 0⟩ ∧
      (Event.ofEntry first numberedNoon).outcome = .error (.refused (.missing "SUMMARY")) ∧
      (eventsOf numberedNoon [calendar]).outcome = .ok [numberedEvent] ∧
      (eventsOf numberedNoon [calendar]).entries = [numberedWarning, countEntry 1 1] :=
    ⟨_, _, _, _, _, rfl, rfl, rfl, rfl, rfl, rfl, rfl, rfl, rfl, rfl⟩
  refine ⟨calendar, first, second, ?_, given⟩
  have ran := Progress.run_named (by decide) head (numberedLine :: numberedRest.map Progress.namedLine)
  rw [Progress.run_cons ((Progress.step_of_parse parse_numberedLine s).trans uid)] at ran
  have behind := Progress.run_named (by decide) rest []
  rw [List.append_nil] at behind
  have read : readComponents [] (dropMark numberedUid.toList) = ([], .ok [calendar]) := by
    rw [readComponents, lines_numberedUid, ran, behind]
    simp [Progress.run, early]
  exact parseCalendars_of_read read (by simp [isCalendar]) (by simp)

/-- Of the two entries the good one is kept; the other is dropped and counted, but its warning does not
show its identifier. -/
theorem normalize_conserves_numberedUid :
    (normalize [] numberedUid numberedNoon).2.outcome = .ok [numberedEvent] ∧
    ∃ entries, entries.length = 2 ∧ entries.filterMap (warning? numberedNoon) = [numberedWarning] ∧
      Conserved numberedNoon entries [numberedEvent] (normalize [] numberedUid numberedNoon).2.entries := by
  obtain ⟨calendar, first, second, parsed, entries, -, -, outcome, log⟩ := parse_numberedUid
  have returned : (normalize [] numberedUid numberedNoon).2.outcome = .ok [numberedEvent] := by
    rw [normalize_of_parsed parsed, outcome]
  obtain ⟨calendars, accepted, conserved⟩ :=
    (normalize_conserves [] numberedUid numberedNoon).1 _ returned
  rw [parsed] at accepted
  cases accepted
  refine ⟨returned, sourceEvents [calendar], by rw [entries]; rfl, ?_, conserved⟩
  rw [← conserved.warned, normalize_of_parsed parsed, log]
  rfl

/-- Not every dropped entry is reported with its first identifier. -/
theorem not_all_warnings_show_firstUid :
    ¬ ∀ (zones : Registry) (text : String) (now : Time.Instant) (calendars : List Component),
      (parseCalendars zones text).2 = .ok calendars →
      (∃ events, (normalize zones text now).2.outcome = .ok events) →
      ∀ c ∈ sourceEvents calendars, ∀ e, (Event.ofEntry c now).outcome = .error (.refused e) →
        ⟨.warning, "dropping_event", [("uid", firstUid c), ("reason", .string e.message)]⟩
          ∈ (normalize zones text now).2.entries := by
  intro shown
  obtain ⟨calendar, first, second, parsed, entries, identifier, refuses, outcome, log⟩ :=
    parse_numberedUid
  have returned : (normalize [] numberedUid numberedNoon).2.outcome = .ok [numberedEvent] := by
    rw [normalize_of_parsed parsed, outcome]
  have member := shown [] numberedUid numberedNoon [calendar] (congrArg Prod.snd parsed) ⟨_, returned⟩
    first (by simp [entries]) _ refuses
  have uid : firstUid first = .string "0" := by
    rw [firstUid, identifier]
    rfl
  rw [normalize_of_parsed parsed, log, uid] at member
  simp [numberedWarning, countEntry] at member

end FeedSieve.Feed
