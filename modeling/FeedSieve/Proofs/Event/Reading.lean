import FeedSieve.Event.Normalize
import FeedSieve.Proofs.Traced

/-!
# What an entry says of its dates

The first property of a name is absent, faulty, without a date, or an instant: `Reading` tells these apart,
and `finishing` does so for the end, which a length may give. A property is faulty if it was kept as broken
or if its conversion fails. The outcome of
`Event.ofEntry` is a function of readings (`outcome_ofEntry`). `Hazard` lists the places at which an
entry ends the whole request, and `ofEntry_fault_iff` says that there are no others.
-/
namespace FeedSieve.Event

open ICalendar

inductive Reading where
  | absent
  | faulty (cause : Fault)
  | malformed
  | instant (t : Time.Instant)

namespace Reading

/-- The reading of a conversion, which gives an instant unless there is a cause against it. -/
def ofConversion (cause : Fault) : Option Time.Instant → Reading
  | some t => .instant t
  | none => .faulty cause

def fault? : Reading → Option Fault
  | .faulty cause => some cause
  | _ => none

/-- Whether an entry may have this reading where a date is optional. -/
def Optional : Reading → Prop
  | .absent => True
  | .instant _ => True
  | _ => False

/-- A reading as the outcome of a step that may do without a date. -/
def optional (field : String) : Reading → Except Failure (Option Time.Instant)
  | .absent => .ok none
  | .faulty cause => .error (.fault cause)
  | .malformed => .error (.refused (.malformed field))
  | .instant t => .ok (some t)

/-- A reading as the outcome of a step that needs a date. -/
def required (missing malformed : String) : Reading → Except Failure Time.Instant
  | .absent => .error (.refused (.missing missing))
  | .faulty cause => .error (.fault cause)
  | .malformed => .error (.refused (.malformed malformed))
  | .instant t => .ok t

theorem optional_eq_fault_iff (r : Reading) (field : String) (f : Fault) :
    r.optional field = .error (.fault f) ↔ r.fault? = some f := by
  cases r <;> simp [optional, fault?]

theorem optional_eq_ok {r : Reading} {field : String} {t? : Option Time.Instant}
    (h : r.optional field = .ok t?) : r.Optional := by
  cases r <;> simp_all [optional, Optional]

theorem optional_ok {r : Reading} (h : r.Optional) (field : String) :
    ∃ t?, r.optional field = .ok t? := by
  cases r <;> simp_all [optional, Optional]

theorem required_eq_fault_iff (r : Reading) (missing malformed : String) (f : Fault) :
    r.required missing malformed = .error (.fault f) ↔ r.fault? = some f := by
  cases r <;> simp [required, fault?]

theorem required_eq_ok_iff (r : Reading) (missing malformed : String) (t : Time.Instant) :
    r.required missing malformed = .ok t ↔ r = .instant t := by
  cases r <;> simp [required]

end Reading

/-- The instant to which a property's length leads from a start. -/
def lengthReading (p : Property) (start : Time.Instant) : Reading :=
  match p.content with
  | .broken cause => .faulty (.brokenProperty p.name cause.message)
  | .plain => .malformed
  | .number _ => .malformed
  | .dated date length _ =>
    match if isVoid date then length else date with
    | some (.duration seconds) => .ofConversion .dateOutOfRange (start.add? seconds)
    | _ => .malformed

/-- The property that the end of an entry is taken from. -/
def finishField (c : Component) : String :=
  match c.first? "DTEND" with
  | some _ => "DTEND"
  | none => "DURATION"

def textReading (c : Component) (name : String) : Except Failure String :=
  match c.first? name with
  | some p => if p.text = "" then .error (.refused (.missing name)) else .ok p.text
  | none => .error (.refused (.missing name))

def HasText (c : Component) (name : String) : Prop := ∃ p, c.first? name = some p ∧ p.text ≠ ""

theorem textReading_found {c : Component} {name : String} {p : Property} (found : c.first? name = some p)
    (nonempty : p.text ≠ "") : textReading c name = .ok p.text := by
  rw [textReading, found]
  exact if_neg nonempty

theorem textReading_of_hasText {c : Component} {name : String} (h : HasText c name) :
    ∃ text, textReading c name = .ok text := by
  obtain ⟨p, found, nonempty⟩ := h
  exact ⟨p.text, textReading_found found nonempty⟩

theorem textReading_eq_ok {c : Component} {name text : String} (h : textReading c name = .ok text) :
    HasText c name := by
  unfold textReading at h
  split at h
  · rename_i p found
    split at h
    · cases h
    · rename_i nonempty
      exact ⟨p, found, nonempty⟩
  · cases h

theorem textReading_ne_fault (c : Component) (name : String) (f : Fault) :
    textReading c name ≠ .error (.fault f) := by
  unfold textReading
  split
  · split <;> simp
  · simp

/-! ## Outcomes of the steps -/

theorem outcome_requiredText (c : Component) (name : String) :
    (requiredText c name).outcome = textReading c name := by
  unfold requiredText textReading
  cases c.first? name with
  | none => rfl
  | some p => by_cases empty : p.text = "" <;> simp [empty, refuse]

theorem outcome_conversion (cause : Fault) (conversion : Logged (Option Time.Instant)) (field : String) :
    (Traced.ofLogged conversion >>= fun t? => some <$> orAbort cause t? : Step (Option Time.Instant)).outcome
      = (Reading.ofConversion cause conversion.value).optional field := by
  rw [Traced.outcome_bind, Traced.outcome_ofLogged]
  cases h : conversion.value <;> rfl

theorem outcome_lengthened (p : Property) (start : Time.Instant) :
    (length p >>= fun seconds => orAbort .dateOutOfRange (start.add? seconds)).outcome
      = (lengthReading p start).required "DTEND" "DURATION" := by
  unfold length held lengthReading
  cases p.content with
  | plain => rfl
  | number value => rfl
  | broken cause => rfl
  | dated date length zone =>
    simp only [pure_bind]
    generalize (if isVoid date = true then length else date) = chosen
    cases chosen with
    | none => rfl
    | some datum =>
      cases datum with
      | moment m => rfl
      | other empty => rfl
      | duration seconds =>
        simp only [pure_bind]
        cases start.add? seconds <;> rfl

section Library

variable [Time.ZoneLibrary]

/-! ## The readings of an entry -/

def dateReading (p : Property) : Reading :=
  match p.content with
  | .broken cause => .faulty (.brokenProperty p.name cause.message)
  | .dated (some (.moment m)) _ zone => .ofConversion (m.failure zone) (m.toUtc zone).value
  | _ => .malformed

def reading (c : Component) (name : String) : Reading :=
  match c.first? name with
  | none => .absent
  | some p => dateReading p

theorem reading_found {c : Component} {name : String} {p : Property} (found : c.first? name = some p) :
    reading c name = dateReading p := by
  rw [reading, found]

/-- The reading of an entry's end: its own date, or what its length leads to. -/
def finishing (c : Component) (start : Time.Instant) : Reading :=
  match c.first? "DTEND", c.first? "DURATION" with
  | some p, _ => dateReading p
  | none, some p => lengthReading p start
  | none, none => .absent

/-- The end that an entry states comes before the one that its length gives. -/
theorem finishing_found {c : Component} {p : Property} (found : c.first? "DTEND" = some p)
    (start : Time.Instant) : finishing c start = dateReading p := by
  rw [finishing, found]

theorem dateReading_ne_absent (p : Property) : dateReading p ≠ .absent := by
  unfold dateReading
  split
  · simp
  · rename_i m _ zone _
    cases (m.toUtc zone).value <;> simp [Reading.ofConversion]
  · simp

theorem outcome_instant? (c : Component) (name : String) :
    (instant? c name).outcome = (reading c name).optional name := by
  unfold instant? reading
  cases c.first? name with
  | none => rfl
  | some p =>
    simp only [dateReading, held]
    cases p.content with
    | plain => rfl
    | number value => rfl
    | broken cause => rfl
    | dated date length zone =>
      cases date with
      | none => rfl
      | some datum =>
        cases datum with
        | duration seconds => rfl
        | other empty => rfl
        | moment m => exact outcome_conversion (m.failure zone) (m.toUtc zone) name

theorem outcome_finish? (c : Component) (start : Time.Instant) :
    (finish? c start).outcome = (finishing c start).required "DTEND" (finishField c) := by
  unfold finish?
  rw [Traced.outcome_bind, outcome_instant?, reading, finishing, finishField]
  cases c.first? "DTEND" with
  | some p =>
    have present := dateReading_ne_absent p
    simp only
    cases read : dateReading p with
    | absent => exact absurd read present
    | _ => rfl
  | none =>
    cases c.first? "DURATION" with
    | none => rfl
    | some p => exact outcome_lengthened p start

/-- The event of an entry, or why there is none, as a function of what the entry says. -/
theorem outcome_ofEntry (c : Component) (now : Time.Instant) :
    (ofEntry c now).outcome = do
      let uid ← textReading c "UID"
      let summary ← textReading c "SUMMARY"
      let start ← (reading c "DTSTART").required "DTSTART" "DTSTART"
      let finish ← (finishing c start).required "DTEND" (finishField c)
      let stamp ← (reading c "DTSTAMP").optional "DTSTAMP"
      let created ← (reading c "CREATED").optional "CREATED"
      return ⟨uid, summary, stamp.getD now, created.getD start, start, finish⟩ := by
  unfold ofEntry
  rw [Traced.outcome_bind, outcome_requiredText]
  congr 1; funext uid
  rw [Traced.outcome_bind, outcome_requiredText]
  congr 1; funext summary
  rw [Traced.outcome_bind, outcome_instant?]
  cases reading c "DTSTART" with
  | instant start =>
    simp only [Reading.optional, Reading.required, pure_bind, Traced.ok_bind]
    rw [Traced.outcome_bind, outcome_finish?]
    congr 1; funext finish
    rw [Traced.outcome_bind, outcome_instant?]
    congr 1; funext stamp
    rw [Traced.outcome_bind, outcome_instant?]
    rfl
  | _ => rfl

/-- An entry all of whose texts and dates are given. -/
theorem outcome_ofEntry_complete {c : Component} {e : Event} (uid : textReading c "UID" = .ok e.uid)
    (summary : textReading c "SUMMARY" = .ok e.summary) (start : reading c "DTSTART" = .instant e.start)
    (finish : finishing c e.start = .instant e.finish) (stamp : reading c "DTSTAMP" = .instant e.stamp)
    (created : reading c "CREATED" = .instant e.created) (now : Time.Instant) :
    (ofEntry c now).outcome = .ok e := by
  rw [outcome_ofEntry, uid, summary, start, stamp, created]
  simp only [Traced.ok_bind, Reading.required, Reading.optional, finish]
  rfl

/-- An entry that gives an event has all the texts and dates that the event says. -/
theorem readings_of_ofEntry {c : Component} {now : Time.Instant} {e : Event}
    (returns : (ofEntry c now).outcome = .ok e) :
    textReading c "UID" = .ok e.uid ∧ textReading c "SUMMARY" = .ok e.summary
    ∧ reading c "DTSTART" = .instant e.start ∧ finishing c e.start = .instant e.finish
    ∧ (∃ stamp, (reading c "DTSTAMP").optional "DTSTAMP" = .ok stamp ∧ e.stamp = stamp.getD now)
    ∧ ∃ created, (reading c "CREATED").optional "CREATED" = .ok created ∧ e.created = created.getD e.start := by
  rw [outcome_ofEntry] at returns
  obtain ⟨uid, identified, returns⟩ := Traced.bind_eq_ok_iff.mp returns
  obtain ⟨summary, titled, returns⟩ := Traced.bind_eq_ok_iff.mp returns
  obtain ⟨start, starts, returns⟩ := Traced.bind_eq_ok_iff.mp returns
  obtain ⟨finish, ends, returns⟩ := Traced.bind_eq_ok_iff.mp returns
  obtain ⟨stamp, stamped, returns⟩ := Traced.bind_eq_ok_iff.mp returns
  obtain ⟨created, made, returns⟩ := Traced.bind_eq_ok_iff.mp returns
  cases returns
  exact ⟨identified, titled, (Reading.required_eq_ok_iff ..).mp starts,
    (Reading.required_eq_ok_iff ..).mp ends, ⟨stamp, stamped, rfl⟩, created, made, rfl⟩

/-! ## Hazards -/

/-- Where an entry ends the request, and with which fault: it has an identifier and a title, all its
dates before that one count, and that one is broken or out of range. -/
inductive Hazard (c : Component) : Fault → Prop where
  | start (f : Fault) (uid : HasText c "UID") (title : HasText c "SUMMARY")
      (here : (reading c "DTSTART").fault? = some f) : Hazard c f
  | finish (f : Fault) (start : Time.Instant) (uid : HasText c "UID") (title : HasText c "SUMMARY")
      (starts : reading c "DTSTART" = .instant start)
      (here : (finishing c start).fault? = some f) : Hazard c f
  | stamp (f : Fault) (start finish : Time.Instant) (uid : HasText c "UID")
      (title : HasText c "SUMMARY") (starts : reading c "DTSTART" = .instant start)
      (ends : finishing c start = .instant finish)
      (here : (reading c "DTSTAMP").fault? = some f) : Hazard c f
  | created (f : Fault) (start finish : Time.Instant) (uid : HasText c "UID")
      (title : HasText c "SUMMARY") (starts : reading c "DTSTART" = .instant start)
      (ends : finishing c start = .instant finish) (stamped : (reading c "DTSTAMP").Optional)
      (here : (reading c "CREATED").fault? = some f) : Hazard c f

theorem Hazard.texts {c : Component} {f : Fault} (h : Hazard c f) :
    HasText c "UID" ∧ HasText c "SUMMARY" := by
  cases h <;> exact ⟨by assumption, by assumption⟩

/-- An entry ends the request with a fault exactly where it has a hazard. -/
theorem ofEntry_fault_iff (c : Component) (now : Time.Instant) (f : Fault) :
    (ofEntry c now).outcome = .error (.fault f) ↔ Hazard c f := by
  rw [outcome_ofEntry]
  simp only [Traced.bind_eq_error_iff, textReading_ne_fault, false_or,
    Reading.required_eq_fault_iff, Reading.required_eq_ok_iff, Reading.optional_eq_fault_iff]
  -- A fault is that of the first date field with one, behind texts and dates that are read.
  constructor
  · rintro ⟨uid, huid, title, htitle, first⟩
    have named := textReading_eq_ok huid
    have titled := textReading_eq_ok htitle
    rcases first with here | ⟨start, starts, here | ⟨finish, ends, later⟩⟩
    · exact .start f named titled here
    · exact .finish f start named titled starts here
    · rcases later with here | ⟨stamp, stamped, here | ⟨_, _, absurd⟩⟩
      · exact .stamp f start finish named titled starts ends here
      · exact .created f start finish named titled starts ends (Reading.optional_eq_ok stamped) here
      · cases absurd
  · intro hazard
    obtain ⟨uid, huid⟩ := textReading_of_hasText hazard.texts.1
    obtain ⟨summary, htitle⟩ := textReading_of_hasText hazard.texts.2
    refine ⟨uid, huid, summary, htitle, ?_⟩
    cases hazard with
    | start _ _ here => exact .inl here
    | finish start _ _ starts here => exact .inr ⟨start, starts, .inl here⟩
    | stamp start finish _ _ starts ends here =>
      exact .inr ⟨start, starts, .inr ⟨finish, ends, .inl here⟩⟩
    | created start finish _ _ starts ends stamped here =>
      obtain ⟨stamp, stamped⟩ := Reading.optional_ok stamped "DTSTAMP"
      exact .inr ⟨start, starts, .inr ⟨finish, ends, .inr ⟨stamp, stamped, .inl here⟩⟩⟩

end Library

/-! ## Reports -/

/-- What the conversion of a component's dates reports has the property. -/
def Reports [Time.ZoneLibrary] (P : Log.Entry → Prop) (c : Component) : Prop :=
  ∀ p ∈ c.properties, ∀ m length zone, p.content = .dated (some (.moment m)) length zone →
    ∀ e ∈ (m.toUtc zone).entries, P e

section Reports

variable {P : Log.Entry → Prop} {c : Component}

theorem held_only (p : Property) : (held p).Only P := by
  unfold held
  split
  · exact Traced.only_pure _ _
  · exact Traced.only_pure _ _
  · exact Traced.only_pure _ _
  · exact Traced.only_throw _ _

theorem held_moment {p : Property} {m : Time.Moment} {length : Option Datum} {zone : Time.ZoneName}
    (h : (held p).outcome = .ok (some (.moment m), length, zone)) :
    p.content = .dated (some (.moment m)) length zone := by
  unfold held at h
  split at h
  · cases h
  · cases h
  · rename_i content
    cases h
    exact content
  · cases h

theorem orAbort_only {α : Type} (cause : Fault) (a? : Option α) : (orAbort cause a?).Only P := by
  cases a? with
  | none => exact Traced.only_throw _ _
  | some a => exact Traced.only_pure _ _

theorem requiredText_only (c : Component) (name : String) : (requiredText c name).Only P := by
  unfold requiredText
  split
  · split
    · exact Traced.only_throw _ _
    · exact Traced.only_pure _ _
  · exact Traced.only_throw _ _

variable [Time.ZoneLibrary]

theorem instant?_only (reports : Reports P c) (name : String) : (instant? c name).Only P := by
  unfold instant?
  split
  · exact Traced.only_pure _ _
  · rename_i p found
    refine Traced.only_bind (held_only p) fun content holds => ?_
    split
    · rename_i m length zone
      have converted := reports p (List.mem_of_find?_eq_some found) m length zone (held_moment holds)
      refine Traced.only_bind (Traced.only_ofLogged converted) fun t? _ => ?_
      exact Traced.only_map (orAbort_only _ _) _
    · exact Traced.only_throw _ _

theorem finish?_only (reports : Reports P c) (start : Time.Instant) : (finish? c start).Only P := by
  unfold finish? length
  refine Traced.only_bind (instant?_only reports "DTEND") fun t? _ => ?_
  split
  · exact Traced.only_pure _ _
  · split
    · exact Traced.only_throw _ _
    · refine Traced.only_bind (Traced.only_bind (held_only _) fun content _ => ?_) fun seconds _ =>
        orAbort_only _ _
      dsimp only
      split
      · exact Traced.only_pure _ _
      · exact Traced.only_throw _ _

/-- An entry reports what the conversion of its dates reports. -/
theorem ofEntry_only (reports : Reports P c) (now : Time.Instant) : (ofEntry c now).Only P := by
  unfold ofEntry
  refine Traced.only_bind (requiredText_only c "UID") fun uid _ => ?_
  refine Traced.only_bind (requiredText_only c "SUMMARY") fun summary _ => ?_
  refine Traced.only_bind (instant?_only reports "DTSTART") fun start? _ => ?_
  -- What follows the start is written once: a start that is missing never comes to it.
  have later : ∀ start, (do
      let finish ← finish? c start
      let stamp ← instant? c "DTSTAMP"
      let created ← instant? c "CREATED"
      return (⟨uid, summary, stamp.getD now, created.getD start, start, finish⟩ : Event)
      : Step Event).Only P := fun start =>
    Traced.only_bind (finish?_only reports start) fun finish _ =>
      Traced.only_bind (instant?_only reports "DTSTAMP") fun stamp _ =>
        Traced.only_bind (instant?_only reports "CREATED") fun created _ => Traced.only_pure _ _
  cases start? with
  | some start => exact Traced.only_bind (Traced.only_pure _ start) fun start _ => later start
  | none => exact Traced.only_bind (Traced.only_throw _ _) fun start _ => later start

end Reports

/-- A report of a time zone that is not known. -/
def IsZoneReport (e : Log.Entry) : Prop := e.event = "unknown_timezone"

theorem inZone_reports [Time.ZoneLibrary] (w : Time.Wall) (name : Time.ZoneName) :
    ∀ e ∈ (w.inZone name).entries, IsZoneReport e := by
  have resolved : ∀ e ∈ (Time.resolve name).entries, IsZoneReport e := by
    unfold Time.resolve
    split
    · simp
    · dsimp only
      split <;> simp [IsZoneReport]
  unfold Time.Wall.inZone
  split
  · simp
  · simpa using resolved

theorem toUtc_reports [Time.ZoneLibrary] (m : Time.Moment) (name : Time.ZoneName) :
    ∀ e ∈ (m.toUtc name).entries, IsZoneReport e := by
  cases m with
  | anchored w offset => simp [Time.Moment.toUtc]
  | adrift w cause => simp [Time.Moment.toUtc]
  | floating w => exact inZone_reports w name
  | date d =>
    simp only [Time.Moment.toUtc]
    split
    · simp
    · exact inZone_reports _ name

/-- An entry reports nothing but time zones that are not known. -/
theorem ofEntry_reports [Time.ZoneLibrary] (c : Component) (now : Time.Instant) : (ofEntry c now).Only IsZoneReport :=
  ofEntry_only (fun _ _ m _ zone _ => toUtc_reports m zone) now

end FeedSieve.Event
