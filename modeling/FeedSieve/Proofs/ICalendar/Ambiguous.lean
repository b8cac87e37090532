import FeedSieve.ICalendar.Property
import FeedSieve.Proofs.ICalendar.Datum
import FeedSieve.Proofs.Traced

/-!
# Dates among several zones

A date takes its midnight from the clock of the zone that its line names, so that a date on a line that names
several zones cannot be read. Nothing else that is wrong with a value is wrong in this way, and the zones that
are known make no difference (`readContent_eq_zones_iff`).
-/
namespace FeedSieve.ICalendar

/-! ## Values that name no zone -/

theorem readDateTime_ne_zones (setting : Setting) (s : List Char) : readDateTime setting s ≠ .error .zones := by
  unfold readDateTime
  dsimp only
  split <;> simp

theorem readTime_ne_zones (s : List Char) : readTime s ≠ .error .zones := by
  unfold readTime
  dsimp only
  split <;> split <;> simp

theorem readDuration_ne_zones (s : List Char) : readDuration s ≠ .error .zones := by
  unfold readDuration
  dsimp only
  split
  · split
    · simp
    · split
      · simp
      · split <;> split <;> simp
  · simp

theorem readPeriod_ne_zones (setting : Setting) (s : List Char) : readPeriod setting s ≠ .error .zones := by
  unfold readPeriod
  split
  · split <;> simp
  · simp

theorem readInteger_ne_zones (s : List Char) : readInteger s ≠ .error .zones := by
  unfold readInteger
  split <;> simp

theorem checkPosition_ne_zones (s : List Char) : checkPosition s ≠ .error .zones := by
  unfold checkPosition
  split
  · split <;> simp
  · simp

theorem readUtcOffset_ne_zones (s : List Char) : readUtcOffset s ≠ .error .zones := by
  unfold readUtcOffset
  dsimp only
  split
  · simp
  · split <;> simp

/-! ## Dates -/

theorem readDate_eq_zones_iff (setting : Setting) (s : List Char) :
    readDate setting s = .error .zones ↔ setting = .conflicting ∧ (readDay? s).isSome = true := by
  unfold readDate
  cases readDay? s with
  | none => simp
  | some d =>
    cases setting with
    | unset => simp
    | conflicting => simp
    | within clock =>
      dsimp only
      split <;> simp

/-- A date value suffers from several zones exactly if it is a day. -/
theorem readDatum_eq_zones_iff (setting : Setting) (s : List Char) :
    readDatum setting s = .error .zones ↔ setting = .conflicting ∧ (readDay? s).isSome = true := by
  constructor
  · intro h
    unfold readDatum readSimple at h
    split at h
    · exact absurd h (readPeriod_ne_zones setting s)
    · split at h
      · exact absurd (Traced.map_eq_error_iff.mp h) (readDuration_ne_zones s)
      · split at h
        · exact absurd (Traced.map_eq_error_iff.mp h) (readDateTime_ne_zones setting s)
        · split at h
          · exact (readDate_eq_zones_iff setting s).mp (Traced.map_eq_error_iff.mp h)
          · split at h
            · exact absurd h (readTime_ne_zones s)
            · cases h
  · rintro ⟨rfl, day⟩
    obtain ⟨d, read⟩ := Option.isSome_iff_exists.mp day
    rw [readDatum_of_day read, Traced.map_eq_error_iff]
    exact (readDate_eq_zones_iff _ s).mpr ⟨rfl, day⟩

/-! ## Lines -/

/-- The line names several zones, in a place where one is looked up. -/
def ContentLine.NamesZones (l : ContentLine) : Prop :=
  l.name ∈ zonedNames ∧ ∃ ids, zoneNameOf l = .several ids

theorem settingOf_eq_conflicting_iff (r : Registry) (l : ContentLine) :
    settingOf r l = .conflicting ↔ l.NamesZones := by
  unfold settingOf ContentLine.NamesZones
  by_cases zoned : l.name ∈ zonedNames
  · rw [if_pos zoned]
    cases zoneNameOf l with
    | none => simp
    | several ids => simp [zoned]
    | one id =>
      dsimp only
      split
      · simp
      · cases r.clock? id <;> simp
  · simp [zoned]

/-- A line that names several zones for a day, or for a list whose first value that cannot be read is a day. -/
inductive Ambiguous (l : ContentLine) : Prop where
  | date (several : l.NamesZones) (form : Form.ofLine l = .date)
      (day : (readDay? l.value.toList).isSome = true)
  | dates (several : l.NamesZones) (form : Form.ofLine l = .dateList) (before after : List (List Char))
      (s : List Char) (pieces : Text.splitAt ',' l.value.toList = before ++ s :: after)
      (read : ∀ p ∈ before, ∃ d, readDatum .conflicting p = .ok d) (day : (readDay? s).isSome = true)

/-- The value of a line suffers from several zones exactly if the line is ambiguous. -/
theorem readContent_eq_zones_iff (r : Registry) (l : ContentLine) :
    readContent r l = .error .zones ↔ Ambiguous l := by
  have conflict := settingOf_eq_conflicting_iff r l
  -- A date is wrapped twice on its way, and neither wrapping can fail.
  have dated {x : Except DatumError Datum} {f : Option Datum → String × Content} :
      (x >>= fun d => pure (some d)).map f = .error .zones ↔ x = .error .zones := by
    rw [Traced.map_eq_error_iff, Traced.bind_eq_error_iff]
    simp [pure, Except.pure]
  constructor
  · intro h
    unfold readContent at h
    dsimp only at h
    split at h
    · cases h
    · rename_i form
      obtain ⟨several, day⟩ := (readDatum_eq_zones_iff _ _).mp (dated.mp h)
      exact .date (conflict.mp several) form day
    · rename_i form
      obtain ⟨before, s, after, pieces, read, failed⟩ :=
        (Traced.mapM_eq_error_iff _ _ _).mp (Traced.map_eq_error_iff.mp h)
      obtain ⟨several, day⟩ := (readDatum_eq_zones_iff _ _).mp failed
      rw [several] at read
      exact .dates (conflict.mp several) form before after s pieces read day
    · exact absurd (Traced.map_eq_error_iff.mp h) (readInteger_ne_zones _)
    · exact absurd (Traced.map_eq_error_iff.mp h) (checkPosition_ne_zones _)
    · exact absurd (Traced.map_eq_error_iff.mp h) (readUtcOffset_ne_zones _)
    · exact absurd (Traced.map_eq_error_iff.mp h) (readPeriod_ne_zones _ _)
    · exact absurd (Traced.map_eq_error_iff.mp h) (readTime_ne_zones _)
  · intro ambiguous
    unfold readContent
    cases ambiguous with
    | date several form day =>
      simp only [form, conflict.mpr several]
      exact dated.mpr ((readDatum_eq_zones_iff _ _).mpr ⟨rfl, day⟩)
    | dates several form before after s pieces read day =>
      simp only [form, conflict.mpr several]
      rw [Traced.map_eq_error_iff, Traced.mapM_eq_error_iff]
      exact ⟨before, s, after, pieces, read, (readDatum_eq_zones_iff _ _).mpr ⟨rfl, day⟩⟩

end FeedSieve.ICalendar
