import FeedSieve.ICalendar.Observance
import FeedSieve.Proofs.Feed.Document

/-!
# Feeds that define zones

Normalizing a feed only adds zones. `zoneFeed` is a feed of one calendar with one zone: whether it can be
read depends on the zones that are known already.
-/
namespace FeedSieve.Feed

open ICalendar

theorem normalize_extends [Time.ZoneLibrary] [ZoneMaker] (zones : Registry) (text : String)
    (now : Time.Instant) :
    zones.Extends (normalize zones text now).1 := by
  rw [normalize_zones]
  exact parseCalendars_extends zones text

/-! ## One zone -/

/-- The lines of a calendar with a zone, from those that open them. -/
def zoneFeed (opening : List (String × String)) : List (String × String) :=
  opening ++ [("END", "VTIMEZONE"), ("END", "VCALENDAR")]

def zoneCalendar (zone : Component) : Component := ⟨"VCALENDAR", [], [zone]⟩

theorem plain_zoneFeed {opening : List (String × String)}
    (plain : ∀ l ∈ opening, Capital l.1.toList ∧ '\n' ∉ l.2.toList) :
    ∀ l ∈ zoneFeed opening, Capital l.1.toList ∧ '\n' ∉ l.2.toList :=
  List.forall_mem_append.mpr ⟨plain, by decide⟩

theorem definesLate_zoneCalendar (zone : Component) : definesLate [zoneCalendar zone] = false := by
  by_cases named : zone.name = "VTIMEZONE" <;> simp [definesLate, zoneCalendar, named]

section ZoneFeed

variable [ZoneMaker] {opening : List (String × String)} {zone : Component} {zones : Registry}
  (plain : ∀ l ∈ opening, Capital l.1.toList ∧ '\n' ∉ l.2.toList)
  (opened : Progress.readLines ⟨[], [], zones⟩ (opening.map Progress.field)
    = .ok ⟨[zone, ⟨"VCALENDAR", [], []⟩], [], zones⟩)

include plain opened

/-- The zone closes inside the calendar and is taken note of. -/
theorem run_zoneFeed : Progress.run ⟨[], [], zones⟩ ((zoneFeed opening).map Progress.namedLine)
    = match Progress.define ⟨[zoneCalendar zone], [], zones⟩ zone with
      | .ok s => s.run [Progress.namedLine ("END", "VCALENDAR")]
      | .error e => (zones, .error e) := by
  have started := Progress.run_named (fun l member => (plain l member).1) opened
    ([("END", "VTIMEZONE"), ("END", "VCALENDAR")].map Progress.namedLine)
  rw [zoneFeed, List.map_append, started, List.map_cons, Progress.run,
    Progress.step_namedLine _ (by decide : Capital "END".toList)]
  rfl

theorem parse_zoneFeed {s : Progress}
    (defined : Progress.define ⟨[zoneCalendar zone], [], zones⟩ zone = .ok s) :
    parseCalendars zones (written (zoneFeed opening)) = (s.zones, .ok [zoneCalendar zone]) := by
  have closes : s.run [Progress.namedLine ("END", "VCALENDAR")]
      = (s.zones, .ok [zoneCalendar zone]) := by
    rw [Progress.define_frame defined,
      Progress.run_cons (Progress.step_namedLine _ (by decide : Capital "END".toList))]
    rfl
  have document : readComponents zones (dropMark (written (zoneFeed opening)).toList)
      = (s.zones, .ok [zoneCalendar zone]) := by
    rw [readComponents, lines_written (plain_zoneFeed plain), run_zoneFeed plain opened, defined]
    dsimp only
    rw [closes]
    dsimp only
    rw [definesLate_zoneCalendar, if_neg (by decide)]
  exact parseCalendars_of_read document rfl (by simp)

theorem parse_zoneFeed_refused {e : DocumentError}
    (refused : Progress.define ⟨[zoneCalendar zone], [], zones⟩ zone = .error e) :
    parseCalendars zones (written (zoneFeed opening)) = (zones, .error (.unreadable e)) := by
  apply parseCalendars_of_unread
  rw [readComponents, lines_written (plain_zoneFeed plain), run_zoneFeed plain opened, refused]

end ZoneFeed

/-! ## A feed that tells whether a zone is known -/

/-- The lines that open a zone without observances. -/
def unfinishedZone (id : String) : List (String × String) :=
  [("BEGIN", "VCALENDAR"), ("BEGIN", "VTIMEZONE"), ("TZID", id)]

theorem plain_unfinishedZone {value : String} (unbroken : '\n' ∉ value.toList) :
    ∀ l ∈ unfinishedZone value, Capital l.1.toList ∧ '\n' ∉ l.2.toList := by
  have opening : ∀ l ∈ [("BEGIN", "VCALENDAR"), ("BEGIN", "VTIMEZONE")],
      Capital l.1.toList ∧ '\n' ∉ l.2.toList := by decide
  have named : Capital "TZID".toList := by decide
  exact List.forall_mem_append.mpr ⟨opening, by simpa using ⟨named, unbroken⟩⟩

def hollowZone (id : String) : Component := ⟨"VTIMEZONE", [.plain "TZID" id], []⟩

theorem readLines_unfinishedZone [ZoneMaker] {id value : String} (read : unescape value.toList = id.toList)
    (zones : Registry) :
    Progress.readLines ⟨[], [], zones⟩ ((unfinishedZone value).map Progress.field)
      = .ok ⟨[hollowZone id, ⟨"VCALENDAR", [], []⟩], [], zones⟩ := by
  have lines : Progress.readLines ⟨[], [], zones⟩ ((unfinishedZone value).map Progress.field)
      = .ok ⟨[⟨"VTIMEZONE", [.plain "TZID" (String.ofList (unescape value.toList))], []⟩,
          ⟨"VCALENDAR", [], []⟩], [], zones⟩ := rfl
  rw [lines, read, String.ofList_toList]
  rfl

/-- The feed is read as a calendar without events if the zone is known, and else it cannot be read. -/
theorem parse_unfinishedZone [ZoneMaker] {id value : String} (read : unescape value.toList = id.toList)
    (unbroken : '\n' ∉ value.toList) (zones : Registry) :
    ((zones.named? (bareIdentifier id)).isSome = true →
      parseCalendars zones (written (zoneFeed (unfinishedZone value)))
        = (zones, .ok [zoneCalendar (hollowZone id)])) ∧
    ((zones.named? (bareIdentifier id)).isSome = false →
      parseCalendars zones (written (zoneFeed (unfinishedZone value)))
        = (zones, .error (.unreadable (.zone (ZoneMaker.hollow (hollowZone id)))))) := by
  have plain := plain_unfinishedZone unbroken
  have opened := readLines_unfinishedZone read zones
  constructor
  · intro known
    exact parse_zoneFeed plain opened (Progress.define_known rfl known)
  · intro unknown
    have unmade : (hollowZone id).zone = .error (.zone (ZoneMaker.hollow (hollowZone id))) :=
      Component.zone_of_hollow rfl
    have named : (hollowZone id).identifiers = [.plain "TZID" id] := rfl
    have refused := Progress.define_unmade (s := ⟨[zoneCalendar (hollowZone id)], [], zones⟩) named
      unknown rfl unmade
    exact parse_zoneFeed_refused plain opened refused

/-! ## A zone of its own -/

/-- The lines that open a zone ninety minutes ahead of UTC. -/
def customZone : List (String × String) := [("BEGIN", "VCALENDAR"), ("BEGIN", "VTIMEZONE"),
  ("TZID", "Custom"), ("BEGIN", "STANDARD"), ("DTSTART", "19700101T000000"),
  ("TZOFFSETFROM", "+0130"), ("TZOFFSETTO", "+0130"), ("END", "STANDARD")]

theorem unlisted_custom : (Registry.named? [] (bareIdentifier "Custom")).isSome = false := by
  decide +kernel

/-- The zone is known after the feed. -/
theorem named_customZone (now : Time.Instant) :
    ((normalize [] (written (zoneFeed customZone)) now).1.named? (bareIdentifier "Custom")).isSome
      = true := by
  obtain ⟨zone, custom, named, isZone, made, opened⟩ : ∃ (zone : Component) (custom : CustomZone),
      zone.identifiers = [.plain "TZID" "Custom"] ∧ zone.name = "VTIMEZONE" ∧
      zone.zone = .ok custom ∧
      Progress.readLines ⟨[], [], []⟩ (customZone.map Progress.field)
        = .ok ⟨[zone, ⟨"VCALENDAR", [], []⟩], [], []⟩ := ⟨_, _, rfl, rfl, rfl, rfl⟩
  have defined := Progress.define_unknown (s := ⟨[zoneCalendar zone], [], []⟩) named unlisted_custom isZone
    made
  rw [normalize_zones, parse_zoneFeed (by decide) opened defined]
  exact Registry.named?_isSome_of_mem (List.mem_append_right [] (List.mem_singleton_self _))

end FeedSieve.Feed
