import FeedSieve.Feed.Normalize
import FeedSieve.Proofs.ICalendar.Registry

/-!
# From the text of a feed to its entries

A feed that can be read is normalized by its entries alone. `written` is the text of given lines, and
`parse_written` says that it is read as what the lines show.
-/
namespace FeedSieve.Feed

open ICalendar

theorem parseCalendars_of_read [ZoneMaker] {zones zones' : Registry} {text : String}
    {cs calendars : List Component}
    (read : readComponents zones (dropMark text.toList) = (zones', .ok cs))
    (filtered : cs.filter (·.name == "VCALENDAR") = calendars) (nonempty : calendars ≠ []) :
    parseCalendars zones text = (zones', .ok calendars) := by
  rw [parseCalendars, read]
  dsimp only
  split
  · rename_i none
    exact absurd (filtered.symm.trans none) nonempty
  · rw [filtered]

theorem parseCalendars_of_unread [ZoneMaker] {zones zones' : Registry} {text : String} {e : DocumentError}
    (unread : readComponents zones (dropMark text.toList) = (zones', .error e)) :
    parseCalendars zones text = (zones', .error (.unreadable e)) := by
  rw [parseCalendars, unread]

/-- Reading a feed only adds zones. -/
theorem parseCalendars_extends [ZoneMaker] (zones : Registry) (text : String) :
    zones.Extends (parseCalendars zones text).1 := by
  have grown := readComponents_extends zones (dropMark text.toList)
  unfold parseCalendars
  split
  · rename_i read
    rw [read] at grown
    exact grown
  · rename_i read
    rw [read] at grown
    split <;> exact grown

/-- Normalizing a feed leaves the zones that reading it leaves. -/
theorem normalize_zones [Time.ZoneLibrary] [ZoneMaker] (zones : Registry) (text : String)
    (now : Time.Instant) :
    (normalize zones text now).1 = (parseCalendars zones text).1 := by
  unfold normalize
  split <;> rename_i parsed <;> rw [parsed]

theorem normalize_of_parsed [Time.ZoneLibrary] [ZoneMaker] {zones zones' : Registry} {text : String}
    {calendars : List Component} (parsed : parseCalendars zones text = (zones', .ok calendars))
    (now : Time.Instant) :
    normalize zones text now = (zones', eventsOf now calendars) := by
  rw [normalize, parsed]

/-- A feed that gives events has calendars. -/
theorem parsed_of_normalize [Time.ZoneLibrary] [ZoneMaker] {zones : Registry} {text : String}
    {now : Time.Instant} {events : List Event} (h : (normalize zones text now).2.outcome = .ok events) :
    ∃ calendars, (parseCalendars zones text).2 = .ok calendars ∧
      (eventsOf now calendars).outcome = .ok events := by
  unfold normalize at h
  split at h
  · rename_i calendars parsed
    exact ⟨calendars, congrArg Prod.snd parsed, h⟩
  · cases h

/-! ## Written feeds -/

/-- The text of lines, each a name and a value. -/
def written (ls : List (String × String)) : String :=
  String.ofList ((ls.map Progress.namedLine).flatMap fold)

def byteOrderMark : Char := Char.ofNat 0xFEFF

theorem dropMark_of_unmarked {text : List Char} (unmarked : text.head? ≠ some byteOrderMark) :
    dropMark text = text := if_neg unmarked

/-- A text of lines begins with what the first line begins with. -/
theorem head?_folded (c : Char) (rest : List Char) (more : List (List Char)) :
    (((c :: rest) :: more).flatMap fold).head? = some c := by
  obtain ⟨tail, begins⟩ := fold_begins c rest (more.flatMap fold)
  rw [List.flatMap_cons, begins, List.head?_cons]

/-- A name in capital letters is no byte-order mark. -/
theorem unmarked_written {ls : List (String × String)}
    (plain : ∀ l ∈ ls, Capital l.1.toList ∧ '\n' ∉ l.2.toList) :
    (written ls).toList.head? ≠ some byteOrderMark := by
  rw [written, String.toList_ofList]
  cases ls with
  | nil => simp
  | cons l more =>
    have capital := (plain l List.mem_cons_self).1
    obtain ⟨c, rest, name⟩ := List.exists_cons_of_ne_nil capital.nonempty
    have upper := capital.upper c (by simp [name])
    rw [List.map_cons, Progress.namedLine, name, List.cons_append, head?_folded, Ne,
      Option.some.injEq]
    rintro rfl
    revert upper
    decide

/-- Lines with names in capital letters are the lines of their text. -/
theorem lines_written {ls : List (String × String)}
    (plain : ∀ l ∈ ls, Capital l.1.toList ∧ '\n' ∉ l.2.toList) :
    lines (dropMark (written ls).toList) = ls.map Progress.namedLine := by
  rw [dropMark_of_unmarked (unmarked_written plain), written, String.toList_ofList,
    lines_fold (separable_namedLines plain)]

/-- A feed of lines with names in capital letters is read as what they show. -/
theorem parse_written [ZoneMaker] {zones zones' : Registry} {ls : List (String × String)}
    {pending cs calendars : List Component} (plain : ∀ l ∈ ls, Capital l.1.toList ∧ '\n' ∉ l.2.toList)
    (read : Progress.readLines ⟨[], [], zones⟩ (ls.map Progress.field) = .ok ⟨pending, cs, zones'⟩)
    (early : definesLate cs = false) (filtered : cs.filter (·.name == "VCALENDAR") = calendars)
    (nonempty : calendars ≠ []) : parseCalendars zones (written ls) = (zones', .ok calendars) := by
  refine parseCalendars_of_read ?_ filtered nonempty
  have ran := Progress.run_named (fun l member => (plain l member).1) read []
  rw [List.append_nil] at ran
  rw [readComponents, lines_written plain, ran]
  simp [Progress.run, early]

end FeedSieve.Feed
