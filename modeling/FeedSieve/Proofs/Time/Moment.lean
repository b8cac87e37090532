import FeedSieve.Proofs.Time.Directory
import FeedSieve.Proofs.Time.Localize
import FeedSieve.Proofs.Time.Names
import FeedSieve.Proofs.Time.Table

/-!
# Readings in the zones of the directory

Every name stands for a zone whose table is steady (`steady_resolve`), so that a reading in it is given an
instant at which the zone's clock shows it, or the one by the offset before the clock skips it. Main
statement: `floating_localizes`.
-/
namespace FeedSieve.Time

variable {id : String} {zone : NamedZone}

/-- What can be checked of a zone in the directory. -/
theorem Zone.exists_of_check {name : String} {P : Zone → Prop} [DecidablePred P]
    (check : (find? name).any (fun zone => decide (P zone)) = true) :
    ∃ zone, find? name = some zone ∧ P zone := by
  obtain ⟨zone, found, holds⟩ := (Option.any_eq_true _ _).mp check
  exact ⟨zone, found, of_decide_eq_true holds⟩

theorem steady_utc : utc.timeline.Steady := (Zone.regular_of_find? Zone.find?_utc).steady_timeline

theorem steady_of_knownZone? (known : knownZone? id = some zone) : zone.timeline.Steady := by
  rw [knownZone?] at known
  split at known
  · rw [← Option.some.inj known]
    exact steady_utc
  · obtain ⟨canonical, -, known⟩ := Option.bind_eq_some_iff.mp known
    obtain ⟨listed, found, known⟩ := Option.bind_eq_some_iff.mp known
    rw [← Option.some.inj known]
    exact (Zone.regular_of_find? found).steady_timeline

/-- No zone has an empty name. -/
theorem knownZone?_empty : knownZone? "" = none := by
  have sought : Text.replaceAll "_minus_".toList ['-'] (Text.replaceAll "_plus_".toList ['+'] "".toList)
      = [] := by decide +kernel
  have unnamed : Zone.canonicalName? "" = none := by
    rw [Zone.canonicalName?, sought, if_pos (by decide), List.find?_eq_none]
    intro name member same
    have letters := (Zone.names_tidy name member).2.1.1
    rw [← Zone.toList_name member] at letters
    simp_all
  rw [knownZone?, if_neg (by decide), unnamed]
  rfl

/-- A known zone is found without a report. -/
theorem resolve_of_known (known : knownZone? id = some zone) : resolve (.one id) = pure zone := by
  have named : (ZoneName.one id).isEmpty = false := by
    apply beq_eq_false_iff_ne.mpr
    rintro rfl
    rw [knownZone?_empty] at known
    cases known
  rw [resolve, named]
  dsimp only
  rw [known]
  rfl

/-- A name stands for a zone that is known under it, or for UTC. -/
theorem resolve_cases (name : ZoneName) :
    (∃ id zone, name = .one id ∧ knownZone? id = some zone ∧ (resolve name).value = zone)
    ∨ ((∀ id, name = .one id → knownZone? id = none) ∧ (resolve name).value = utc) := by
  cases name with
  | none => exact .inr ⟨by simp, rfl⟩
  | several names =>
    have unknown : (resolve (.several names)).value = utc := by
      simp only [resolve]
      split <;> rfl
    exact .inr ⟨(fun id same => by cases same), unknown⟩
  | one id =>
    cases known : knownZone? id with
    | some zone => exact .inl ⟨id, zone, rfl, known, by rw [resolve_of_known known]; rfl⟩
    | none =>
      refine .inr ⟨by rintro _ ⟨⟩; exact known, ?_⟩
      rw [resolve]
      split
      · rfl
      · dsimp only
        rw [known]
        rfl

/-- On the clock of UTC a reading is the instant it shows. -/
theorem toInstant?_utc [ZoneLibrary] (w : Wall) : utc.timeline.toInstant? w = w.toInstant? 0 := by
  have unchanged : utc.timeline.changes = [] := rfl
  have offset : utc.timeline.localOffset? w = some 0 := by
    rw [Timeline.localOffset?, if_pos unchanged]
    rfl
  rw [Timeline.toInstant?, offset, Option.bind_eq_bind, Option.bind_some]

theorem steady_resolve (name : ZoneName) : (resolve name).value.timeline.Steady := by
  rcases resolve_cases name with ⟨id, zone, -, known, same⟩ | ⟨-, same⟩
  · rw [same]
    exact steady_of_knownZone? known
  · rw [same]
    exact steady_utc

/-- Where the lookup of its name does not end, a reading is looked up in the table of the zone that is found. -/
theorem inZone_of_accepted [ZoneLibrary] {name : ZoneName} (accepted : name.fault? = none) (w : Wall) :
    (w.inZone name).value = (resolve name).value.timeline.toInstant? w := by
  rw [Wall.inZone, accepted]
  rfl

theorem inZone_of_fault [ZoneLibrary] {name : ZoneName} (refused : name.fault? ≠ none) (w : Wall) :
    (w.inZone name).value = none := by
  obtain ⟨cause, found⟩ := Option.ne_none_iff_exists'.mp refused
  rw [Wall.inZone, found]
  rfl

/-- A reading that is left to its parameter is looked up in the table of the zone, without a report. -/
theorem toUtc_of_known [ZoneLibrary] (known : knownZone? id = some zone) (w : Wall) :
    (Moment.floating w).toUtc (.one id) = pure (zone.timeline.toInstant? w) := by
  change (do let zone ← resolve (.one id); return zone.timeline.toInstant? w) = _
  rw [resolve_of_known known]
  rfl

/-- A reading in a zone whose table is steady becomes an instant at which the zone's clock shows it, or the one
by the offset before the clock skips it. All zones of the directory are such zones, and a reading that is left
to the name of one is given this instant without a report. -/
theorem floating_localizes [ZoneLibrary] :
    (∀ (z : Timeline) (w : Wall), z.Steady → w.Inside → z.Localizes w (z.toInstant? w))
    ∧ ∀ (id : String) (zone : NamedZone) (w : Wall), knownZone? id = some zone → w.Inside →
      zone.timeline.Steady
      ∧ (Moment.floating w).toUtc (.one id) = pure (zone.timeline.toInstant? w)
      ∧ zone.timeline.Localizes w (zone.timeline.toInstant? w) := by
  refine ⟨fun z w steady inside => steady.localizes inside, fun id zone w known inside => ?_⟩
  have steady := steady_of_knownZone? known
  exact ⟨steady, toUtc_of_known known w, steady.localizes inside⟩

/-- Noon on the day that Samoa left out when it moved across the date line. -/
def skippedNoon : Wall := ⟨⟨63460843200000000, by decide⟩⟩

/-- It becomes 22:00 of UTC on that day, when the clocks of Samoa already showed noon of the next. -/
theorem exists_apia : ∃ zone, Zone.find? "Pacific/Apia" = some zone
    ∧ zone.timeline.toInstant? skippedNoon = some ⟨⟨63460879200000000, by decide⟩⟩
    ∧ ¬ zone.timeline.ShowsAt ⟨⟨63460879200000000, by decide⟩⟩ skippedNoon :=
  Zone.exists_of_check (by decide +kernel)

theorem floating_localizes_skippedNoon : ∃ zone, knownZone? "Pacific/Apia" = some zone
    ∧ (Moment.floating skippedNoon).toUtc (.one "Pacific/Apia")
      = pure (some ⟨⟨63460879200000000, by decide⟩⟩)
    ∧ zone.timeline.Localizes skippedNoon (some ⟨⟨63460879200000000, by decide⟩⟩)
    ∧ ¬ ∃ t, zone.timeline.ShowsAt t skippedNoon := by
  obtain ⟨listed, found, instant, elsewhere⟩ := exists_apia
  obtain ⟨zone, known, same⟩ := exists_knownZone? found
  rw [← same] at instant elsewhere
  obtain ⟨steady, given, localizes⟩ := floating_localizes.2 _ _ skippedNoon known (by decide)
  rw [instant] at given localizes
  refine ⟨zone, known, given, localizes, fun shown => ?_⟩
  obtain ⟨t, only, shownAt⟩ := localizes.shown shown
  cases only
  exact elsewhere shownAt

end FeedSieve.Time
