import FeedSieve.Event.Normalize
import FeedSieve.Proofs.ICalendar.Datum
import FeedSieve.Proofs.ICalendar.Parameter
import FeedSieve.Proofs.ICalendar.Registry
import FeedSieve.Proofs.Time.Moment

/-!
# A reading on the clock of a zone

A reading in a zone can become an instant in two ways. A start is read by the record and the rule of the
zone that its line names (`instant?_startLine`). A reading that is left to its parameter is looked up in the
zone's table of whole minutes (`toUtc_floating`). `startLookedUp_iff` says when the two are the same.
-/
namespace FeedSieve

open ICalendar Time

/-! ## Names of zones in a line -/

section Listed

variable {id : String} {zone : Zone}

theorem ordinary_of_listed (listed : Zone.find? id = some zone) : Ordinary id.toList := by
  have each : ∀ n : Fin 128, Zone.isNameChar (Char.ofNat n.val) = true → isOrdinary (Char.ofNat n.val) = true := by
    decide
  intro c member
  have inNames := Zone.mem_names_of_find? listed
  exact Text.forall_ascii (P := fun c => Zone.isNameChar c = true → isOrdinary c = true) each
    (Zone.ascii_of_mem inNames member) (Zone.isNameChar_of_mem inNames member)

theorem toList_ne_nil_of_listed (listed : Zone.find? id = some zone) : id.toList ≠ [] := by
  have member := Zone.mem_names_of_find? listed
  rw [Zone.toList_name member]
  exact (Zone.names_tidy id member).2.1.1

theorem ne_empty_of_listed (listed : Zone.find? id = some zone) : id ≠ "" := by
  rintro rfl
  exact toList_ne_nil_of_listed listed rfl

/-- The name of a listed zone has no slashes around it. -/
theorem bareIdentifier_of_listed (listed : Zone.find? id = some zone) : bareIdentifier id = id := by
  have member := Zone.mem_names_of_find? listed
  obtain ⟨front, back⟩ := (Zone.names_tidy id member).2.2.1
  rw [← Zone.toList_name member] at front back
  have kept {s : List Char} (solid : s.head? ≠ some '/') : s.dropWhile (fun c => c == '/') = s := by
    cases s with
    | nil => rfl
    | cons c rest =>
      have other : c ≠ '/' := fun same => solid (same ▸ rfl)
      rw [List.dropWhile_cons_of_neg (by simpa using other)]
  have reversed : id.toList.reverse.head? ≠ some '/' := by rwa [List.head?_reverse]
  rw [bareIdentifier, kept front, kept reversed, List.reverse_reverse, String.ofList_toList]

/-- A registry of zones that calendars may define has every listed zone under its name. -/
theorem clock?_of_listed (listed : Zone.find? id = some zone) {r : Registry}
    (definable : ∀ d ∈ r, Registry.Definable d) : r.clock? id = some (.listed zone) := by
  have none_ : r.find? (·.1 == id) = none := by
    rw [List.find?_eq_none]
    intro d member same
    have unlisted := (definable d member).unlisted
    rw [eq_of_beq same, listed] at unlisted
    cases unlisted
  have named : r.named? id = some (.listed zone) := by rw [Registry.named?, none_, listed]; rfl
  rw [Registry.clock?, bareIdentifier_of_listed listed, List.cons_append, List.findSome?_cons, named]

end Listed

/-! ## The two ways -/

def startLine (id : String) (w : Wall) : List Char :=
  "DTSTART".toList ++ ';' :: ("TZID".toList ++ '=' :: id.toList ++ ':' :: basicWall w)

def startContent (id : String) (w : Wall) : ContentLine :=
  ⟨"DTSTART", [⟨"TZID", [id]⟩], String.ofList (basicWall w)⟩

variable {id : String} {zone : Zone} {w : Wall}

theorem parse_startLine (listed : Zone.find? id = some zone) (w : Wall) :
    ContentLine.parse (startLine id w) = .ok (startContent id w) := by
  have named : Capital "DTSTART".toList := by decide
  have capital : Capital "TZID".toList := by decide
  have plain : unescape (basicWall w) = basicWall w :=
    unescape_of_not_mem (not_mem_basicWall (by decide) (by decide) w)
  have read := ContentLine.parse_with named capital (ordinary_of_listed listed)
    (toList_ne_nil_of_listed listed) (basicWall w)
  rw [plain, String.ofList_toList, String.ofList_toList, String.ofList_toList] at read
  exact read

/-- In a start line the reading is on the clock of its zone. -/
theorem ofLine_startContent (listed : Zone.find? id = some zone) {r : Registry}
    (definable : ∀ d ∈ r, Registry.Definable d) (whole : w.ticks.IsWhole) :
    Property.ofLine r (startContent id w)
      = (⟨"DTSTART", String.ofList (basicWall w),
          .dated (some (.moment (.anchored w (zone.exactOffset w))))
            (some (.moment (.anchored w (zone.exactOffset w)))) (.one id)⟩, none) := by
  have setting : settingOf r (startContent id w) = .within (.listed zone) := by
    have names : zoneNameOf (startContent id w) = .one id := rfl
    have zoned : (startContent id w).name ∈ zonedNames := by
      change "DTSTART" ∈ zonedNames
      decide
    rw [settingOf, if_pos zoned, names]
    dsimp only
    rw [if_neg (ne_empty_of_listed listed), clock?_of_listed listed definable]
    rfl
  have value : (startContent id w).value.toList = basicWall w := String.toList_ofList
  have form : Form.ofLine (startContent id w) = .date := rfl
  rw [Property.ofLine, readContent, setting, value, form, readDatum_basicWall whole]
  rfl

/-- A start in a zone is normalized by the record and the rule of the zone. -/
theorem instant?_startLine [ZoneLibrary] (listed : Zone.find? id = some zone) {r : Registry}
    (definable : ∀ d ∈ r, Registry.Definable d) (whole : w.ticks.IsWhole) {t : Instant}
    (inRange : w.toInstant? (zone.exactOffset w) = some t) {c : Component}
    (starts : c.first? "DTSTART" = some (Property.ofLine r (startContent id w)).1) :
    Event.instant? c "DTSTART" = pure (some t) := by
  rw [ofLine_startContent listed definable whole] at starts
  rw [Event.instant?, starts]
  change (some <$> Event.orAbort .dateOutOfRange (w.toInstant? (zone.exactOffset w))) = _
  rw [inRange]
  rfl

/-- A reading that is left to its parameter is looked up in the table of the zone, without a report. -/
theorem toUtc_floating [ZoneLibrary] (listed : Zone.find? id = some zone) (w : Wall) :
    (Moment.floating w).toUtc (.one id) = pure (zone.timeline.toInstant? w) := by
  obtain ⟨known, found, same⟩ := exists_knownZone? listed
  rw [toUtc_of_known found, same]

/-- The start of a component is what a lookup of a reading in a zone gives. -/
def StartLookedUp [ZoneLibrary] (c : Component) (w : Wall) (id : String) : Prop :=
  Event.instant? c "DTSTART" = Traced.ofLogged ((Moment.floating w).toUtc (.one id))

/-- The two ways give the same exactly if the lookup does not refuse the reading and the table takes the offset
of the first showing. -/
theorem startLookedUp_iff_takes [ZoneLibrary] (listed : Zone.find? id = some zone) {r : Registry}
    (definable : ∀ d ∈ r, Registry.Definable d) (whole : w.ticks.IsWhole) {t : Instant}
    (inRange : w.toInstant? (zone.exactOffset w) = some t) {c : Component}
    (starts : c.first? "DTSTART" = some (Property.ofLine r (startContent id w)).1) :
    StartLookedUp c w id
      ↔ zone.timeline.Reaches w ∧ zone.timeline.Takes w.seconds (zone.exactOffset w) := by
  rw [StartLookedUp, instant?_startLine listed definable whole inRange starts, toUtc_floating listed,
    ← (Zone.regular_of_find? listed).toInstant?_timeline_iff_takes whole inRange]
  constructor
  · intro same
    have outcome := congrArg Traced.outcome same
    exact (Except.ok.inj outcome).symm
  · intro same
    rw [same]
    rfl

/-- A reading a day within 32-bit seconds is not refused. -/
theorem reaches_of_seconds [ZoneLibrary] (whole : w.ticks.IsWhole) (z : Timeline)
    (low : Zone.earliest ≤ w.seconds) (high : (w.seconds : Int) ≤ Zone.latest) : z.Reaches w := by
  unfold Zone.earliest at low
  unfold Zone.latest at high
  exact .inr (.inr (Timeline.surrounded_of_seconds whole (by omega) (by unfold spanSeconds; omega)))

/-- A start that a line gives in a listed zone is normalized at the offset of the first showing of its
reading. This is what a lookup of the reading gives exactly if the lookup does not refuse the reading and the
table of the zone takes that offset:

* three days within 32-bit seconds, at offsets of whole minutes, exactly if the reading is not shown twice or
  is shown first on standard time and then shifted;
* a day after 32-bit seconds, exactly if the reading is not refused and the offset is the one that the table
  ends with;
* a day before them, exactly if the reading is not refused and it is the first offset of the zone, in whole
  minutes. -/
theorem startLookedUp_iff [ZoneLibrary] (listed : Zone.find? id = some zone) {r : Registry}
    (definable : ∀ d ∈ r, Registry.Definable d) (whole : w.ticks.IsWhole) {t : Instant}
    (inRange : w.toInstant? (zone.exactOffset w) = some t) {c : Component}
    (starts : c.first? "DTSTART" = some (Property.ofLine r (startContent id w)).1) :
    ContentLine.parse (startLine id w) = .ok (startContent id w)
    ∧ Event.instant? c "DTSTART" = pure (some t)
    ∧ zone.history.TakesFirst w.seconds (zone.exactOffset w)
    ∧ (StartLookedUp c w id
        ↔ zone.timeline.Reaches w ∧ zone.timeline.Takes w.seconds (zone.exactOffset w))
    ∧ (Zone.earliest + 259200 ≤ w.seconds → w.seconds + 259200 ≤ Zone.latest →
        (∀ u : Int, w.seconds - 259200 ≤ u → u ≤ w.seconds + 259200 →
          (zone.history.periodAt u).offset % 60 = 0) →
        (StartLookedUp c w id ↔ zone.history.StandardFirst w.seconds))
    ∧ (Zone.latest + 86400 ≤ w.seconds →
        (StartLookedUp c w id ↔ zone.timeline.Reaches w
          ∧ zone.exactOffset w = (Zone.wholeMinutes (zone.history.periodAt Zone.latest)).offset))
    ∧ (w.seconds + 86400 < Zone.earliest →
        (StartLookedUp c w id ↔ zone.timeline.Reaches w
          ∧ zone.exactOffset w = (Zone.wholeMinutes ⟨zone.first, false⟩).offset)) := by
  have regular := Zone.regular_of_find? listed
  have same := startLookedUp_iff_takes listed definable whole inRange starts
  refine ⟨parse_startLine listed w, instant?_startLine listed definable whole inRange starts,
    regular.takesFirst w, same, fun low high minutes => ?_, fun after => ?_, fun before => ?_⟩
  · rw [same, regular.takes_inside (regular.agrees low high minutes)]
    exact and_iff_right (reaches_of_seconds whole _ (by omega) (by omega))
  · rw [same, regular.takes_after after]
  · rw [same, regular.takes_before before]

/-! ## An hour that is shown twice -/

/-- Half past two on the day on which summer time ended in 2020. -/
def repeatedReading : Wall := ⟨⟨63739189800000000, by decide⟩⟩

/-- An entry that starts at half past two on that day. -/
def repeatedStart : Component :=
  ⟨"VEVENT", [(Property.ofLine [] (startContent "Europe/Berlin" repeatedReading)).1], []⟩

/-- Summer time shows it first, and the table takes standard time. -/
theorem exists_berlin : ∃ zone, Zone.find? "Europe/Berlin" = some zone
    ∧ repeatedReading.toInstant? (zone.exactOffset repeatedReading) = some ⟨⟨63739182600000000, by decide⟩⟩
    ∧ zone.timeline.toInstant? repeatedReading = some ⟨⟨63739186200000000, by decide⟩⟩ :=
  Zone.exists_of_check (by decide +kernel)

theorem first?_repeatedStart {zone : Zone} (listed : Zone.find? "Europe/Berlin" = some zone) :
    repeatedStart.first? "DTSTART"
      = some (Property.ofLine [] (startContent "Europe/Berlin" repeatedReading)).1 := by
  have read := ofLine_startContent listed (r := []) (by simp) (by decide : repeatedReading.ticks.IsWhole)
  rw [repeatedStart, read]
  rfl

theorem startLookedUp_iff_repeated : ∃ zone, Zone.find? "Europe/Berlin" = some zone
    ∧ Event.instant? repeatedStart "DTSTART" = pure (some ⟨⟨63739182600000000, by decide⟩⟩)
    ∧ (StartLookedUp repeatedStart repeatedReading "Europe/Berlin"
      ↔ zone.timeline.Reaches repeatedReading
        ∧ zone.timeline.Takes repeatedReading.seconds (zone.exactOffset repeatedReading)) := by
  obtain ⟨zone, listed, inRange, -⟩ := exists_berlin
  obtain ⟨-, normalized, -, same, -⟩ := startLookedUp_iff listed (r := []) (by simp) (by decide) inRange
    (first?_repeatedStart listed)
  exact ⟨zone, listed, normalized, same⟩

/-- In the repeated hour the two ways differ. -/
theorem not_all_starts_lookedUp : ¬ ∀ (id : String) (zone : Zone) (r : Registry) (w : Wall) (t : Instant)
    (c : Component), Zone.find? id = some zone → (∀ d ∈ r, Registry.Definable d) → w.ticks.IsWhole →
    w.toInstant? (zone.exactOffset w) = some t →
    c.first? "DTSTART" = some (Property.ofLine r (startContent id w)).1 → StartLookedUp c w id := by
  intro all
  obtain ⟨zone, listed, inRange, table⟩ := exists_berlin
  have starts := first?_repeatedStart listed
  have same := all _ zone [] _ _ _ listed (by simp) (by decide) inRange starts
  rw [StartLookedUp, instant?_startLine listed (by simp) (by decide) inRange starts, toUtc_floating listed,
    table] at same
  cases congrArg Traced.outcome same

end FeedSieve
