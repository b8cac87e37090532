import FeedSieve.ICalendar.Observance
import FeedSieve.Proofs.Event.Reading
import FeedSieve.Proofs.Feed.Document

/-!
# What one entry does to a feed

An entry contributes an event, or is dropped with a warning, or ends the request. `Accounted` follows the
entries of a feed whose events are returned; `FirstHazard` finds the entry that ends the request where
none are. Main statement: `normalize_isolates_entries`.
-/
namespace FeedSieve.Feed

open ICalendar

def droppingEntry (c : Component) (e : EntryError) : Log.Entry :=
  ⟨.warning, "dropping_event", [("uid", shownUid c), ("reason", .string e.message)]⟩

def isDropping (e : Log.Entry) : Bool := e.event == "dropping_event"

section Library

variable [Time.ZoneLibrary]

/-- Each entry contributes one event or one warning, in the order of the entries. -/
inductive Accounted (now : Time.Instant) : List Component → List Event → List Log.Entry → Prop where
  | nil : Accounted now [] [] []
  | kept (c : Component) (rest : List Component) (e : Event) (events : List Event)
      (warnings : List Log.Entry) (accepts : (Event.ofEntry c now).outcome = .ok e)
      (others : Accounted now rest events warnings) :
      Accounted now (c :: rest) (e :: events) warnings
  | dropped (c : Component) (rest : List Component) (e : EntryError) (events : List Event)
      (warnings : List Log.Entry) (refuses : (Event.ofEntry c now).outcome = .error (.refused e))
      (others : Accounted now rest events warnings) :
      Accounted now (c :: rest) events (droppingEntry c e :: warnings)

/-- The fault of the first entry that has a hazard. -/
inductive FirstHazard : List Component → Fault → Prop where
  | here (c : Component) (rest : List Component) (f : Fault) (hazard : Event.Hazard c f) :
      FirstHazard (c :: rest) f
  | later (c : Component) (rest : List Component) (f : Fault) (safe : ∀ g, ¬ Event.Hazard c g)
      (others : FirstHazard rest f) : FirstHazard (c :: rest) f

theorem firstHazard_iff (entries : List Component) :
    (∃ f, FirstHazard entries f) ↔ ∃ c ∈ entries, ∃ f, Event.Hazard c f := by
  constructor
  · rintro ⟨f, first⟩
    induction first with
    | here c rest f hazard => exact ⟨c, List.mem_cons_self, f, hazard⟩
    | later c rest f safe others ih =>
      obtain ⟨d, member, hazard⟩ := ih
      exact ⟨d, List.mem_cons_of_mem c member, hazard⟩
  · rintro ⟨c, member, f, hazard⟩
    induction entries with
    | nil => cases member
    | cons head rest ih =>
      by_cases safe : ∃ g, Event.Hazard head g
      · obtain ⟨g, headHazard⟩ := safe
        exact ⟨g, .here head rest g headHazard⟩
      · rcases List.mem_cons.mp member with equal | behind
        · subst equal
          exact absurd ⟨f, hazard⟩ safe
        · obtain ⟨g, first⟩ := ih behind
          exact ⟨g, .later head rest g (fun g h => safe ⟨g, h⟩) first⟩

/-! ## One entry -/

theorem outcomeOf_accepted {c : Component} {now : Time.Instant} {e : Event}
    (h : (Event.ofEntry c now).outcome = .ok e) :
    (outcomeOf now c).outcome = .ok (some e) ∧
      (outcomeOf now c).entries = (Event.ofEntry c now).entries := by
  unfold outcomeOf
  simp only [h]
  exact ⟨rfl, List.append_nil _⟩

theorem outcomeOf_refused {c : Component} {now : Time.Instant} {e : EntryError}
    (h : (Event.ofEntry c now).outcome = .error (.refused e)) :
    (outcomeOf now c).outcome = .ok none ∧
      (outcomeOf now c).entries = (Event.ofEntry c now).entries ++ [droppingEntry c e] := by
  unfold outcomeOf
  simp only [h]
  exact ⟨rfl, rfl⟩

theorem outcomeOf_fault {c : Component} {now : Time.Instant} {f : Fault}
    (h : (Event.ofEntry c now).outcome = .error (.fault f)) :
    (outcomeOf now c).outcome = .error (.fault f) := by
  unfold outcomeOf
  simp only [h]
  rfl

theorem entries_outcomeOf_fault {c : Component} {now : Time.Instant} {f : Fault}
    (h : (Event.ofEntry c now).outcome = .error (.fault f)) :
    (outcomeOf now c).entries = (Event.ofEntry c now).entries := by
  unfold outcomeOf
  simp only [h]
  exact List.append_nil _

/-- An entry reports time zones that are not known, and that it is dropped. -/
theorem outcomeOf_only {P : Log.Entry → Prop} (zone : ∀ e, e.event = "unknown_timezone" → P e)
    (dropping : ∀ e, e.event = "dropping_event" → P e) (now : Time.Instant) (c : Component) :
    (outcomeOf now c).Only P := by
  have reports : ∀ e ∈ (Event.ofEntry c now).entries, P e := fun e member =>
    zone e (Event.ofEntry_reports c now e member)
  intro e member
  cases judged : (Event.ofEntry c now).outcome with
  | ok event =>
    rw [(outcomeOf_accepted judged).2] at member
    exact reports e member
  | error failure =>
    cases failure with
    | refused cause =>
      rw [(outcomeOf_refused judged).2, List.mem_append, List.mem_singleton] at member
      rcases member with before | rfl
      · exact reports e before
      · exact dropping _ rfl
    | fault f =>
      rw [entries_outcomeOf_fault judged] at member
      exact reports e member

/-- The reports of an entry's conversion are no warnings that it is dropped. -/
theorem filter_isDropping_ofEntry (c : Component) (now : Time.Instant) :
    (Event.ofEntry c now).entries.filter isDropping = [] := by
  apply List.filter_eq_nil_iff.mpr
  intro e member
  have report : e.event = "unknown_timezone" := Event.ofEntry_reports c now e member
  simp [isDropping, report]

/-! ## All entries -/

/-- The events and the count of dropped entries with one more entry in front. -/
def tally (event : Option Event) (later : List Event × Nat) : List Event × Nat :=
  match event with
  | some e => (e :: later.1, later.2)
  | none => (later.1, later.2 + 1)

theorem outcomesOf_cons (now : Time.Instant) (c : Component) (rest : List Component) :
    outcomesOf now (c :: rest) =
      outcomeOf now c >>= fun event => tally event <$> outcomesOf now rest := by
  rw [outcomesOf]
  congr 1; funext event
  cases event <;> rfl

theorem outcomesOf_only {P : Log.Entry → Prop} (zone : ∀ e, e.event = "unknown_timezone" → P e)
    (dropping : ∀ e, e.event = "dropping_event" → P e) (now : Time.Instant) (entries : List Component) :
    (outcomesOf now entries).Only P := by
  induction entries with
  | nil => exact Traced.only_pure _ _
  | cons c rest ih =>
    rw [outcomesOf_cons]
    exact Traced.only_bind (outcomeOf_only zone dropping now c) fun event _ => Traced.only_map ih _

/-- Where events are returned, each entry is accounted for. -/
theorem outcomesOf_ok (now : Time.Instant) (entries : List Component) (events : List Event)
    (dropped : Nat) (h : (outcomesOf now entries).outcome = .ok (events, dropped)) :
    Accounted now entries events ((outcomesOf now entries).entries.filter isDropping) := by
  induction entries generalizing events dropped with
  | nil =>
    cases h
    exact .nil
  | cons c rest ih =>
    rw [outcomesOf_cons] at h ⊢
    rw [Traced.outcome_bind] at h
    obtain ⟨event, first, h⟩ := Traced.bind_eq_ok_iff.mp h
    rw [Traced.entries_bind_ok first, Traced.entries_map, List.filter_append]
    rw [Traced.outcome_map] at h
    cases later : (outcomesOf now rest).outcome with
    | error e =>
      rw [later] at h
      cases h
    | ok result =>
      obtain ⟨laterEvents, laterDropped⟩ := result
      -- The entry in front decides what is put before the events and warnings of the others.
      have others := ih laterEvents laterDropped later
      rw [later] at h
      cases judged : (Event.ofEntry c now).outcome with
      | ok e =>
        obtain ⟨outcome, reports⟩ := outcomeOf_accepted judged
        rw [outcome] at first
        cases first
        cases h
        rw [reports, filter_isDropping_ofEntry]
        exact .kept c rest e laterEvents _ judged others
      | error failure =>
        cases failure with
        | refused e =>
          obtain ⟨outcome, reports⟩ := outcomeOf_refused judged
          rw [outcome] at first
          cases first
          cases h
          rw [reports, List.filter_append, filter_isDropping_ofEntry]
          exact .dropped c rest e laterEvents _ judged others
        | fault f =>
          rw [outcomeOf_fault judged] at first
          cases first

/-- An entry that has no hazard is passed over, whether it is accepted or refused. -/
theorem outcomeOf_safe {c : Component} (now : Time.Instant) (safe : ∀ f, ¬ Event.Hazard c f) :
    ∃ event, (outcomeOf now c).outcome = .ok event := by
  cases judged : (Event.ofEntry c now).outcome with
  | ok e => exact ⟨some e, (outcomeOf_accepted judged).1⟩
  | error failure =>
    cases failure with
    | refused e => exact ⟨none, (outcomeOf_refused judged).1⟩
    | fault f => exact absurd ((Event.ofEntry_fault_iff c now f).mp judged) (safe f)

/-- An entry with a hazard in front is the first one. -/
theorem firstHazard_cons_of_hazard {c : Component} {f g : Fault} (hazard : Event.Hazard c f)
    (rest : List Component) :
    FirstHazard (c :: rest) g ↔ Event.Hazard c g := by
  constructor
  · intro first
    cases first with
    | here _ _ _ hazard => exact hazard
    | later _ _ _ safe _ => exact absurd hazard (safe f)
  · intro hazard
    exact .here c rest g hazard

/-- An entry without a hazard in front is passed over. -/
theorem firstHazard_cons_of_safe {c : Component} {f : Fault} (safe : ∀ g, ¬ Event.Hazard c g)
    (rest : List Component) :
    FirstHazard (c :: rest) f ↔ FirstHazard rest f := by
  constructor
  · intro first
    cases first with
    | here _ _ _ hazard => exact absurd hazard (safe f)
    | later _ _ _ _ others => exact others
  · intro others
    exact .later c rest f safe others

/-- Entries end the request with the fault of the first one that has a hazard, and only then. -/
theorem outcomesOf_error_iff (now : Time.Instant) (entries : List Component) (e : Failure) :
    (outcomesOf now entries).outcome = .error e ↔ ∃ f, e = .fault f ∧ FirstHazard entries f := by
  induction entries with
  | nil =>
    apply iff_of_false nofun
    rintro ⟨f, -, first⟩
    cases first
  | cons c rest ih =>
    rw [outcomesOf_cons, Traced.outcome_bind]
    by_cases hazardous : ∃ f, Event.Hazard c f
    · -- The conversion of the entry gives its fault, so that an entry has one hazard at most.
      obtain ⟨f, hazard⟩ := hazardous
      have faulty := (Event.ofEntry_fault_iff c now f).mpr hazard
      have only (g : Fault) : Event.Hazard c g ↔ f = g := by
        rw [← Event.ofEntry_fault_iff c now g, faulty, Except.error.injEq, Event.Failure.fault.injEq]
      simp only [firstHazard_cons_of_hazard hazard, only, exists_eq_right']
      rw [outcomeOf_fault faulty]
      constructor
      · intro ends
        exact (Except.error.inj ends).symm
      · rintro rfl
        rfl
    · have safe : ∀ f, ¬ Event.Hazard c f := fun f hazard => hazardous ⟨f, hazard⟩
      obtain ⟨event, passed⟩ := outcomeOf_safe now safe
      rw [passed, Traced.ok_bind, Traced.outcome_map]
      simp only [firstHazard_cons_of_safe safe]
      exact Traced.map_eq_error_iff.trans ih

/-! ## The whole feed -/

/-- The count of dropped entries is only reported: the events are those of the entries. -/
theorem outcome_eventsOf (now : Time.Instant) (calendars : List Component) :
    (eventsOf now calendars).outcome
      = Prod.fst <$> (outcomesOf now (sourceEvents calendars)).outcome := by
  unfold eventsOf
  rw [Traced.outcome_bind]
  cases (outcomesOf now (sourceEvents calendars)).outcome with
  | error e => rfl
  | ok result =>
    obtain ⟨events, dropped⟩ := result
    rw [Traced.ok_bind]
    by_cases complete : dropped = 0
    · subst complete
      rfl
    · simp only [if_pos complete]
      rfl

/-- The report on the whole feed is no warning that an entry is dropped. -/
theorem filter_isDropping_eventsOf (now : Time.Instant) (calendars : List Component) :
    (eventsOf now calendars).entries.filter isDropping
      = (outcomesOf now (sourceEvents calendars)).entries.filter isDropping := by
  unfold eventsOf
  rw [Traced.entries_bind]
  cases (outcomesOf now (sourceEvents calendars)).outcome with
  | error e => simp
  | ok result =>
    obtain ⟨events, dropped⟩ := result
    by_cases complete : dropped = 0 <;> simp [complete, isDropping]

theorem outcomesOf_of_eventsOf {now : Time.Instant} {calendars : List Component} {events : List Event}
    (h : (eventsOf now calendars).outcome = .ok events) :
    ∃ dropped, (outcomesOf now (sourceEvents calendars)).outcome = .ok (events, dropped) := by
  rw [outcome_eventsOf] at h
  obtain ⟨⟨others, dropped⟩, counted, same⟩ := Traced.map_eq_ok_iff.mp h
  cases same
  exact ⟨dropped, counted⟩

theorem eventsOf_error_iff (now : Time.Instant) (calendars : List Component) (e : Failure) :
    (eventsOf now calendars).outcome = .error e ↔
      ∃ f, e = .fault f ∧ FirstHazard (sourceEvents calendars) f := by
  rw [outcome_eventsOf, ← outcomesOf_error_iff now]
  exact Traced.map_eq_error_iff

/-- A feed whose calendars can be read gives its events, each entry accounted for by an event or by a
warning, unless an entry has a hazard: then the first one ends the request with its fault. -/
theorem normalize_isolates_entries [ZoneMaker] (zones : Registry) (text : String) (now : Time.Instant)
    (calendars : List Component) (accepted : (parseCalendars zones text).2 = .ok calendars) :
    (∀ events, (normalize zones text now).2.outcome = .ok events →
      Accounted now (sourceEvents calendars) events
        ((normalize zones text now).2.entries.filter isDropping)) ∧
    (∀ e, (normalize zones text now).2.outcome = .error e ↔
      ∃ f, e = .fault f ∧ FirstHazard (sourceEvents calendars) f) ∧
    ((∃ events, (normalize zones text now).2.outcome = .ok events) ↔
      ∀ c ∈ sourceEvents calendars, ∀ f, ¬ Event.Hazard c f) := by
  have parsed : parseCalendars zones text = ((parseCalendars zones text).1, .ok calendars) := by
    rw [← accepted]
  rw [normalize_of_parsed parsed]
  refine ⟨?_, eventsOf_error_iff now calendars, ?_⟩
  · intro events returned
    obtain ⟨dropped, counted⟩ := outcomesOf_of_eventsOf returned
    rw [filter_isDropping_eventsOf]
    exact outcomesOf_ok now _ _ dropped counted
  · constructor
    · rintro ⟨events, returned⟩ c member f hazard
      obtain ⟨g, first⟩ := (firstHazard_iff _).mpr ⟨c, member, f, hazard⟩
      have fails := (eventsOf_error_iff now calendars (.fault g)).mpr ⟨g, rfl, first⟩
      rw [returned] at fails
      cases fails
    · intro safe
      cases returned : (eventsOf now calendars).outcome with
      | ok events => exact ⟨events, rfl⟩
      | error e =>
        obtain ⟨f, -, first⟩ := (eventsOf_error_iff now calendars e).mp returned
        obtain ⟨c, member, g, hazard⟩ := (firstHazard_iff _).mp ⟨f, first⟩
        exact absurd hazard (safe c member g)

end Library

/-! ## An entry with a hazard -/

/-- A feed whose first entry has no date where its start should be. -/
def unreadableStart : List (String × String) := [("BEGIN", "VCALENDAR"),
  ("BEGIN", "VEVENT"), ("UID", "a"), ("SUMMARY", "x"), ("DTSTART", "junk"), ("END", "VEVENT"),
  ("BEGIN", "VEVENT"), ("UID", "b"), ("SUMMARY", "y"), ("DTSTART", "20200101T000000Z"),
  ("DTEND", "20200101T010000Z"), ("END", "VEVENT"), ("END", "VCALENDAR")]

theorem parse_unreadableStart [ZoneMaker] : ∃ second, parseCalendars [] (written unreadableStart) = ([],
    .ok [⟨"VCALENDAR", [], [⟨"VEVENT", [.plain "UID" "a", .plain "SUMMARY" "x",
      ⟨"DTSTART", "junk", .broken (.form "junk")⟩], []⟩, second]⟩]) := by
  obtain ⟨second, name, read⟩ : ∃ second, second.name = "VEVENT" ∧
      Progress.readLines ⟨[], [], []⟩ (unreadableStart.map Progress.field)
        = .ok ⟨[], [⟨"VCALENDAR", [], [⟨"VEVENT", [.plain "UID" "a", .plain "SUMMARY" "x",
          ⟨"DTSTART", "junk", .broken (.form "junk")⟩], []⟩, second]⟩], []⟩ :=
    ⟨_, rfl, rfl⟩
  refine ⟨second, parse_written (by decide) read ?_ rfl (by simp)⟩
  simp [definesLate, name]

/-- The entry ends the request, and the good one behind it gives no event. -/
theorem normalize_isolates_unreadableStart :
    (∃ calendars, (parseCalendars [] (written unreadableStart)).2 = .ok calendars) ∧
    (normalize [] (written unreadableStart) ⟨⟨63729374400000000, by decide⟩⟩).2.outcome
      = .error (.fault (.brokenProperty "DTSTART" "Expected datetime, date, or time. Got: 'junk'")) := by
  obtain ⟨second, parsed⟩ := parse_unreadableStart
  have accepted := congrArg Prod.snd parsed
  refine ⟨⟨_, accepted⟩, ?_⟩
  refine ((normalize_isolates_entries [] _ _ _ accepted).2.1 _).mpr ⟨_, rfl, .here _ _ _ ?_⟩
  exact .start _ ⟨_, rfl, by decide⟩ ⟨_, rfl, by decide⟩ rfl

/-- Not every feed that can be read gives its events. -/
theorem not_all_entries_isolated :
    ¬ ∀ (zones : Registry) (text : String) (now : Time.Instant) (calendars : List Component),
      (parseCalendars zones text).2 = .ok calendars →
        ∃ events, (normalize zones text now).2.outcome = .ok events := by
  intro isolated
  obtain ⟨second, parsed⟩ := parse_unreadableStart
  obtain ⟨events, returned⟩ := isolated [] (written unreadableStart) ⟨⟨63729374400000000, by decide⟩⟩ _
    (congrArg Prod.snd parsed)
  rw [normalize_of_parsed parsed, outcome_eventsOf] at returned
  cases returned

end FeedSieve.Feed
