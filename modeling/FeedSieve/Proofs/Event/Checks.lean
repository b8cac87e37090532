import FeedSieve.Proofs.Event.Reading
import FeedSieve.Proofs.Time.Instant

/-!
# The checks of an entry

An entry is judged by a list of checks, in the order of its fields: the first one that fails refuses it,
and an entry that passes all of them is an event that says what the entry says. Main statement:
`ofEntry_judged`.
-/
namespace FeedSieve.Event

open ICalendar

/-! ## What properties hold -/

/-- A text, a number, or one value that may serve as a date and as a length. -/
def IsTyped : Content → Prop
  | .plain => True
  | .number _ => True
  | .dated date length _ => date = length
  | .broken _ => False

/-- The moment a property holds, and the zone it names. -/
def moment? (p : Property) : Option (Time.Moment × Time.ZoneName) :=
  match p.content with
  | .dated (some (.moment m)) _ zone => some (m, zone)
  | _ => none

/-- The length a property holds, in seconds. -/
def duration? (p : Property) : Option Int :=
  match p.content with
  | .dated (some (.duration seconds)) _ _ => some seconds
  | _ => none

/-- The property holds a moment that becomes the instant. -/
def Converts [Time.ZoneLibrary] (p : Property) (t : Time.Instant) : Prop :=
  ∃ m zone, moment? p = some (m, zone) ∧ (m.toUtc zone).value = some t

/-- All moments of an entry become instants, and its length leads from its start to one. -/
structure Convertible [Time.ZoneLibrary] (c : Component) : Prop where
  moments : ∀ name ∈ ["DTSTART", "DTEND", "DTSTAMP", "CREATED"], ∀ p, c.first? name = some p →
    ∀ m zone, moment? p = some (m, zone) → (m.toUtc zone).value ≠ none
  lengthened : c.first? "DTEND" = none → ∀ p start, c.first? "DTSTART" = some p → Converts p start →
    ∀ q seconds, c.first? "DURATION" = some q → duration? q = some seconds → start.add? seconds ≠ none

/-! ## The checks -/

def textDefect (c : Component) (name : String) : Option EntryError :=
  match c.first? name with
  | some p => if p.text = "" then some (.missing name) else none
  | none => some (.missing name)

def dateDefect (p : Property) (name : String) : Option EntryError :=
  if (moment? p).isSome then none else some (.malformed name)

def startDefect (c : Component) : Option EntryError :=
  match c.first? "DTSTART" with
  | some p => dateDefect p "DTSTART"
  | none => some (.missing "DTSTART")

/-- What is wrong with the end, which may be given as a length. -/
def finishDefect (c : Component) : Option EntryError :=
  match c.first? "DTEND", c.first? "DURATION" with
  | some p, _ => dateDefect p "DTEND"
  | none, some q => if (duration? q).isSome then none else some (.malformed "DURATION")
  | none, none => some (.missing "DTEND")

def optionalDefect (c : Component) (name : String) : Option EntryError :=
  (c.first? name).bind fun p => dateDefect p name

/-- The checks of an entry, in order. -/
def checks (c : Component) : List (Option EntryError) := [
  textDefect c "UID",
  textDefect c "SUMMARY",
  startDefect c,
  finishDefect c,
  optionalDefect c "DTSTAMP",
  optionalDefect c "CREATED"]

def firstDefect (c : Component) : Option EntryError := (checks c).findSome? id

/-! ## What an accepted entry says -/

/-- The end is the one that the entry states, or else its length after the start. -/
def Ends [Time.ZoneLibrary] (c : Component) (start t : Time.Instant) : Prop :=
  match c.first? "DTEND" with
  | some p => Converts p t
  | none => ∃ q seconds, c.first? "DURATION" = some q ∧ duration? q = some seconds ∧
      (t.ticks : Int) = start.ticks + seconds * Time.second

/-- The instant is the one that the entry states, or else the default. -/
def StatedOr [Time.ZoneLibrary] (c : Component) (name : String) (default t : Time.Instant) : Prop :=
  match c.first? name with
  | some p => Converts p t
  | none => t = default

/-- The event says what the first properties of the entry say. -/
structure Described [Time.ZoneLibrary] (c : Component) (now : Time.Instant) (e : Event) : Prop where
  uid : ∃ p, c.first? "UID" = some p ∧ e.uid = p.text
  summary : ∃ p, c.first? "SUMMARY" = some p ∧ e.summary = p.text
  start : ∃ p, c.first? "DTSTART" = some p ∧ Converts p e.start
  finish : Ends c e.start e.finish
  stamp : StatedOr c "DTSTAMP" now e.stamp
  created : StatedOr c "CREATED" e.start e.created

/-! ## Outcomes that checks decide -/

/-- The outcome is the first failure of the checks, or a result with the property where none fails. -/
def Judged {α : Type} (ds : List (Option EntryError)) (P : α → Prop) (x : Except Failure α) : Prop :=
  match ds.findSome? id with
  | some e => x = .error (.refused e)
  | none => ∃ a, x = .ok a ∧ P a

section Judged

variable {α β : Type} {P : α → Prop} {Q : β → Prop}

theorem judged_ok {a : α} (holds : P a) : Judged [] P (.ok a : Except Failure α) := ⟨a, rfl, holds⟩

theorem judged_passes {a : α} (holds : P a) : Judged [none] P (.ok a : Except Failure α) :=
  ⟨a, rfl, holds⟩

theorem judged_fails (P : α → Prop) (e : EntryError) :
    Judged [some e] P (.error (.refused e) : Except Failure α) := rfl

/-- The checks of a composed step are those of its parts, and the second part may rely on the first. -/
theorem Judged.bind {d : Option EntryError} {ds : List (Option EntryError)} {x : Except Failure α}
    {f : α → Except Failure β} (first : Judged [d] P x) (later : ∀ a, P a → Judged ds Q (f a)) :
    Judged (d :: ds) Q (x >>= f) := by
  cases d with
  | some e =>
    have fails : x = .error (.refused e) := first
    rw [fails]
    exact (rfl : Except.error (.refused e) = (Except.error (.refused e) : Except Failure β))
  | none =>
    obtain ⟨a, same, holds⟩ : ∃ a, x = .ok a ∧ P a := first
    rw [same]
    exact later a holds

end Judged

/-! ## The steps -/

section Steps

variable {c : Component} {name : String}

theorem textReading_judged (c : Component) (name : String) :
    Judged [textDefect c name] (fun text => ∃ p, c.first? name = some p ∧ text = p.text)
      (textReading c name) := by
  unfold textDefect textReading
  cases c.first? name with
  | none => exact judged_fails _ _
  | some p =>
    by_cases empty : p.text = ""
    · simp only [if_pos empty]
      exact judged_fails _ _
    · simp only [if_neg empty]
      exact judged_passes ⟨p, rfl, rfl⟩

/-- A length leads from the start to exactly so many seconds later. -/
theorem add?_ticks {start t : Time.Instant} {seconds : Int} (added : start.add? seconds = some t) :
    (t.ticks : Int) = start.ticks + seconds * Time.second := by
  obtain ⟨ticks, shifted, rfl⟩ := Option.map_eq_some_iff.mp added
  exact Time.Ticks.shift?_eq_some_iff.mp shifted

/-- A typed property is a length, or it is malformed as one. -/
theorem lengthReading_typed {q : Property} (typed : IsTyped q.content) (start : Time.Instant) :
    (∃ seconds, duration? q = some seconds ∧
      lengthReading q start = .ofConversion .dateOutOfRange (start.add? seconds)) ∨
    (duration? q = none ∧ lengthReading q start = .malformed) := by
  unfold duration? lengthReading
  cases content : q.content with
  | plain => exact .inr ⟨rfl, rfl⟩
  | number value => exact .inr ⟨rfl, rfl⟩
  | broken cause =>
    rw [content] at typed
    exact typed.elim
  | dated date length zone =>
    rw [content] at typed
    -- Whether the first value counts or not, the other one is the same.
    obtain rfl : date = length := typed
    simp only [ite_self]
    match date with
    | none => exact .inr ⟨rfl, rfl⟩
    | some (.duration seconds) => exact .inl ⟨seconds, rfl, rfl⟩
    | some (.other empty) => exact .inr ⟨rfl, rfl⟩
    | some (.moment m) => exact .inr ⟨rfl, rfl⟩

variable [Time.ZoneLibrary]

/-- A typed property is read as the instant of its moment, or it is malformed. -/
theorem dateReading_typed {p : Property} (typed : IsTyped p.content)
    (inRange : ∀ m zone, moment? p = some (m, zone) → (m.toUtc zone).value ≠ none) (name : String) :
    (dateDefect p name = none ∧ ∃ t, dateReading p = .instant t ∧ Converts p t) ∨
    (dateDefect p name = some (.malformed name) ∧ dateReading p = .malformed) := by
  unfold dateDefect dateReading
  cases content : p.content with
  | plain => exact .inr ⟨by simp [moment?, content], rfl⟩
  | number value => exact .inr ⟨by simp [moment?, content], rfl⟩
  | broken cause =>
    rw [content] at typed
    exact typed.elim
  | dated date length zone =>
    match date with
    | none => exact .inr ⟨by simp [moment?, content], rfl⟩
    | some (.duration seconds) => exact .inr ⟨by simp [moment?, content], rfl⟩
    | some (.other empty) => exact .inr ⟨by simp [moment?, content], rfl⟩
    | some (.moment m) =>
      have holds : moment? p = some (m, zone) := by rw [moment?, content]
      obtain ⟨t, converted⟩ := Option.ne_none_iff_exists'.mp (inRange m zone holds)
      refine .inl ⟨by simp [holds], t, ?_, m, zone, holds, converted⟩
      change Reading.ofConversion (m.failure zone) (m.toUtc zone).value = .instant t
      rw [converted]
      rfl

theorem start_judged (typed : ∀ p ∈ c.properties, IsTyped p.content) (convertible : Convertible c) :
    Judged [startDefect c] (fun t => ∃ p, c.first? "DTSTART" = some p ∧ Converts p t)
      ((reading c "DTSTART").required "DTSTART" "DTSTART") := by
  unfold startDefect reading
  cases found : c.first? "DTSTART" with
  | none => exact judged_fails _ _
  | some p =>
    have inRange := convertible.moments "DTSTART" (by simp) p found
    rcases dateReading_typed (typed p (List.mem_of_find?_eq_some found)) inRange "DTSTART" with
      ⟨sound, t, read, converts⟩ | ⟨defect, read⟩
    · dsimp only
      rw [sound, read]
      exact judged_passes ⟨p, rfl, converts⟩
    · dsimp only
      rw [defect, read]
      exact judged_fails _ _

theorem optional_judged (typed : ∀ p ∈ c.properties, IsTyped p.content) (convertible : Convertible c)
    (field : name ∈ ["DTSTART", "DTEND", "DTSTAMP", "CREATED"]) :
    Judged [optionalDefect c name] (fun t? => ∀ default, StatedOr c name default (t?.getD default))
      ((reading c name).optional name) := by
  unfold optionalDefect reading StatedOr
  cases found : c.first? name with
  | none => exact judged_passes fun default => rfl
  | some p =>
    have inRange := convertible.moments name field p found
    rw [Option.bind_some]
    rcases dateReading_typed (typed p (List.mem_of_find?_eq_some found)) inRange name with
      ⟨sound, t, read, converts⟩ | ⟨defect, read⟩
    · dsimp only
      rw [sound, read]
      exact judged_passes fun default => converts
    · dsimp only
      rw [defect, read]
      exact judged_fails _ _

theorem finish_judged (typed : ∀ p ∈ c.properties, IsTyped p.content) (convertible : Convertible c)
    {start : Time.Instant} (starts : ∃ p, c.first? "DTSTART" = some p ∧ Converts p start) :
    Judged [finishDefect c] (Ends c start) ((finishing c start).required "DTEND" (finishField c)) := by
  unfold finishDefect finishing finishField Ends
  cases foundEnd : c.first? "DTEND" with
  | some p =>
    have inRange := convertible.moments "DTEND" (by simp) p foundEnd
    rcases dateReading_typed (typed p (List.mem_of_find?_eq_some foundEnd)) inRange "DTEND" with
      ⟨sound, t, read, converts⟩ | ⟨defect, read⟩
    · dsimp only
      rw [sound, read]
      exact judged_passes converts
    · dsimp only
      rw [defect, read]
      exact judged_fails _ _
  | none =>
    cases found : c.first? "DURATION" with
    | none => exact judged_fails _ _
    | some q =>
      rcases lengthReading_typed (typed q (List.mem_of_find?_eq_some found)) start with
        ⟨seconds, lasts, read⟩ | ⟨lengthless, read⟩
      · obtain ⟨p, foundStart, converts⟩ := starts
        obtain ⟨t, added⟩ := Option.ne_none_iff_exists'.mp
          (convertible.lengthened foundEnd p start foundStart converts q seconds found lasts)
        dsimp only
        rw [lasts, read, added]
        exact judged_passes ⟨q, seconds, rfl, lasts, add?_ticks added⟩
      · dsimp only
        rw [lengthless, read]
        exact judged_fails _ _

/-! ## The entry -/

/-- The outcome of an entry is decided by its checks. -/
theorem outcome_judged (typed : ∀ p ∈ c.properties, IsTyped p.content) (convertible : Convertible c)
    (now : Time.Instant) : Judged (checks c) (Described c now) (ofEntry c now).outcome := by
  rw [outcome_ofEntry]
  refine (textReading_judged c "UID").bind fun uid identified => ?_
  refine (textReading_judged c "SUMMARY").bind fun summary titled => ?_
  refine (start_judged typed convertible).bind fun start starts => ?_
  refine (finish_judged typed convertible starts).bind fun finish finishes => ?_
  refine (optional_judged typed convertible (by simp)).bind fun stamp stamped => ?_
  refine (optional_judged typed convertible (by simp)).bind fun created dated => ?_
  exact judged_ok ⟨identified, titled, starts, finishes, stamped now, dated start⟩

end Steps

/-- An entry is refused for the first check that fails; one that passes them all is an event that says
what the entry says. Nothing ends the request. -/
theorem ofEntry_judged [Time.ZoneLibrary] (c : Component) (now : Time.Instant)
    (typed : ∀ p ∈ c.properties, IsTyped p.content) (convertible : Convertible c) :
    (∀ e, (ofEntry c now).outcome = .error (.refused e) ↔ firstDefect c = some e) ∧
    (∀ f, (ofEntry c now).outcome ≠ .error (.fault f)) ∧
    (firstDefect c = none → ∃ e, (ofEntry c now).outcome = .ok e ∧ Described c now e) := by
  have judged := outcome_judged typed convertible now
  unfold Judged at judged
  rw [← firstDefect] at judged
  cases defect : firstDefect c with
  | some cause =>
    rw [defect] at judged
    have fails : (ofEntry c now).outcome = .error (.refused cause) := judged
    rw [fails]
    simp
  | none =>
    rw [defect] at judged
    obtain ⟨event, returns, described⟩ : ∃ e, (ofEntry c now).outcome = .ok e ∧ Described c now e := judged
    rw [returns]
    exact ⟨by simp, by simp, fun _ => ⟨event, rfl, described⟩⟩

/-! ## An entry with a negative length -/

/-- An entry that ends an hour before its start. A second title is not looked at. -/
def backward : Component := ⟨"VEVENT", [
  ⟨"UID", "a", .plain⟩,
  ⟨"SUMMARY", "x", .plain⟩,
  ⟨"SUMMARY", "", .plain⟩,
  ⟨"DTSTART", "20200301T000000Z", .dated (some (.moment (.anchored ⟨⟨63718617600000000, by decide⟩⟩ 0)))
    (some (.moment (.anchored ⟨⟨63718617600000000, by decide⟩⟩ 0))) .none⟩,
  ⟨"DURATION", "-PT1H", .dated (some (.duration (-3600))) (some (.duration (-3600))) .none⟩], []⟩

def backwardNoon : Time.Instant := ⟨⟨63729547200000000, by decide⟩⟩

theorem convertible_backward : Convertible backward where
  moments := by
    intro name member p found m zone holds
    simp only [List.mem_cons, List.not_mem_nil, or_false] at member
    rcases member with rfl | rfl | rfl | rfl
    · cases found
      cases holds
      decide
    · cases found
    · cases found
    · cases found
  lengthened := by
    rintro - p start found ⟨m, zone, holds, converted⟩ q seconds foundLength lasts
    cases found
    cases holds
    cases converted
    cases foundLength
    cases lasts
    decide

/-- The entry passes all checks and gives an event that lasts minus one hour. -/
theorem ofEntry_judged_backward :
    (∀ p ∈ backward.properties, IsTyped p.content) ∧ Convertible backward ∧
    ∃ e, (ofEntry backward backwardNoon).outcome = .ok e ∧ e.summary = "x" ∧ e.stamp = backwardNoon ∧
      (e.finish.ticks : Int) = e.start.ticks + -3600 * Time.second := by
  have typed : ∀ p ∈ backward.properties, IsTyped p.content := by
    simp [backward, IsTyped]
  refine ⟨typed, convertible_backward, ?_⟩
  obtain ⟨e, returns, described⟩ := (ofEntry_judged backward backwardNoon typed
    convertible_backward).2.2 rfl
  obtain ⟨title, foundTitle, summary⟩ := described.summary
  obtain ⟨q, seconds, foundLength, lasts, finish⟩ := described.finish
  cases foundTitle
  cases foundLength
  cases lasts
  exact ⟨e, returns, summary, described.stamp, finish⟩

end FeedSieve.Event
