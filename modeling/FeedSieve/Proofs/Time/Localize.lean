import FeedSieve.Proofs.Time.Showing

/-!
# Readings on the clock of a table

A steady table gives a reading an instant at which its clock shows it, if there is one. If there is none the
clock skips the reading, and the instant is the one by the offset in force just before. This holds to the
microsecond, since a fraction of a second changes nothing (`localOffset?_wholeSecond`). Main statement:
`Steady.localizes`.
-/
namespace FeedSieve.Time

open Timeline

/-! ## Fractions of a second -/

def Wall.wholeSecond (w : Wall) : Wall := ⟨w.ticks.whole⟩

theorem Ticks.isWhole_whole (t : Ticks) : t.whole.IsWhole := by
  rw [IsWhole, val_whole, Time.second]
  omega

theorem Ticks.seconds_whole (t : Ticks) : t.whole.val / Time.second = t.val / Time.second := by
  rw [val_whole, Time.second]
  omega

/-- Moving by whole seconds leaves the fraction as it is. -/
theorem Ticks.shift?_whole (t : Ticks) (seconds : Int) :
    t.whole.shift? (seconds * Time.second) = (t.shift? (seconds * Time.second)).map Ticks.whole := by
  have total := span_eq
  have bound := t.isLt
  have value := t.val_whole
  have unit : (Time.second : Int) = 1000000 := rfl
  rw [Time.second] at value
  cases moved : t.shift? (seconds * Time.second) with
  | none =>
    have outside : ¬ (0 ≤ t.val + seconds * 1000000 ∧ t.val + seconds * 1000000 < 315537897600000000) := by
      rintro ⟨low, high⟩
      obtain ⟨there, shift⟩ := Ticks.exists_shift? t (seconds * 1000000) low high
      rw [unit, shift] at moved
      cases moved
    rw [unit]
    exact Ticks.shift?_eq_none (by omega)
  | some there =>
    rw [Ticks.shift?_eq_some_iff, unit] at moved
    rw [Option.map_some, Ticks.shift?_eq_some_iff, Ticks.val_whole, unit, Time.second]
    omega

theorem Wall.isWhole_wholeSecond (w : Wall) : w.wholeSecond.ticks.IsWhole := w.ticks.isWhole_whole

theorem Wall.seconds_wholeSecond (w : Wall) : w.wholeSecond.seconds = w.seconds := w.ticks.seconds_whole

theorem Wall.toInstant?_wholeSecond (w : Wall) (offset : Int) :
    w.wholeSecond.toInstant? offset = (w.toInstant? offset).map Instant.wholeSecond := by
  rw [toInstant?, toInstant?, ← Int.neg_mul]
  change (w.ticks.whole.shift? _).map _ = _
  rw [Ticks.shift?_whole, Option.map_map, Option.map_map]
  rfl

theorem Instant.seconds_wholeSecond (t : Instant) : t.wholeSecond.seconds = t.seconds :=
  t.ticks.seconds_whole

namespace Timeline

variable (z : Timeline) (w : Wall)

theorem guess?_wholeSecond (days : Int) : z.guess? w.wholeSecond days = z.guess? w days := by
  have unit : days * (day : Int) = days * 86400 * Time.second := by
    rw [day_eq, Time.second]
    omega
  rw [guess?_eq, guess?_eq, unit]
  change (w.ticks.whole.shift? _).bind _ = _
  rw [Ticks.shift?_whole, Option.bind_map]
  refine Option.bind_congr fun near _ => ?_
  have seconds : ((near.whole.val : Int) / Time.second) = near.val / Time.second := by
    exact_mod_cast near.seconds_whole
  simp only [Function.comp_def, seconds, Wall.toInstant?_wholeSecond, Option.bind_map]
  refine Option.bind_congr fun t _ => ?_
  rw [t.seconds_wholeSecond]

theorem nearby?_wholeSecond : z.nearby? w.wholeSecond = z.nearby? w := by
  rw [nearby?, nearby?, guess?_wholeSecond, guess?_wholeSecond]

theorem putBack?_wholeSecond : putBack? w.wholeSecond = (putBack? w).map Wall.wholeSecond := by
  have hours : -(sixHours : Int) = -21600 * Time.second := rfl
  rw [putBack?, putBack?, hours]
  change (w.ticks.whole.shift? _).map _ = _
  rw [Ticks.shift?_whole, Option.map_map, Option.map_map]
  rfl

theorem surrounded_wholeSecond : w.wholeSecond.Surrounded ↔ w.Surrounded := by
  have total := span_eq
  have unit := day_eq
  unfold Wall.Surrounded
  change day ≤ w.ticks.whole.val ∧ w.ticks.whole.val + day < span ↔ _
  rw [Ticks.val_whole, Time.second]
  omega

variable [ZoneLibrary]

theorem admit?_wholeSecond : admit? w.wholeSecond = (admit? w).map Wall.wholeSecond := by
  simp only [admit?, surrounded_wholeSecond]
  split <;> rfl

theorem earlier?_wholeSecond : earlier? w.wholeSecond = (earlier? w).map Wall.wholeSecond := by
  rw [earlier?, earlier?, putBack?_wholeSecond, Option.bind_map, Option.map_bind]
  exact Option.bind_congr fun v _ => admit?_wholeSecond v

theorem search_wholeSecond (attempts : Nat) :
    search z.nearby? earlier? attempts w.wholeSecond = search z.nearby? earlier? attempts w := by
  induction attempts generalizing w with
  | zero => rfl
  | succ attempts ih =>
    have earlier : (earlier? w.wholeSecond).bind (search z.nearby? earlier? attempts)
        = (earlier? w).bind (search z.nearby? earlier? attempts) := by
      rw [earlier?_wholeSecond, Option.bind_map]
      exact Option.bind_congr fun v _ => ih v
    rw [search, search, nearby?_wholeSecond, earlier]

theorem localOffset?_wholeSecond : z.localOffset? w.wholeSecond = z.localOffset? w := by
  have attempts : w.wholeSecond.ticks.val / sixHours = w.ticks.val / sixHours := by
    have hours : sixHours = 21600000000 := rfl
    change w.ticks.whole.val / sixHours = _
    rw [Ticks.val_whole, Time.second, hours]
    omega
  have found : (admit? w.wholeSecond).bind (search z.nearby? earlier? (w.ticks.val / sixHours + 1))
      = (admit? w).bind (search z.nearby? earlier? (w.ticks.val / sixHours + 1)) := by
    rw [admit?_wholeSecond, Option.bind_map]
    exact Option.bind_congr fun v _ => search_wholeSecond z v _
  rw [localOffset?, localOffset?, attempts, found]

end Timeline

/-- A reading two days or more within the years 1 to 9999. -/
def Wall.Inside (w : Wall) : Prop := 2 * day ≤ w.ticks.val ∧ w.ticks.val + 2 * day < span

instance (w : Wall) : Decidable w.Inside := inferInstanceAs (Decidable (_ ∧ _))

namespace Timeline

/-! ## Readings that are shown and readings that are skipped -/

variable {z : Timeline} {w : Wall}

/-- The clock shows a reading at an instant. -/
def ShowsAt (z : Timeline) (t : Instant) (w : Wall) : Prop :=
  t.toWall? (z.periodAt t.seconds).offset = some w

instance (z : Timeline) (t : Instant) (w : Wall) : Decidable (z.ShowsAt t w) :=
  inferInstanceAs (Decidable (_ = _))

/-- The clock skips a reading at a second of UTC: until then it has not come past the reading, and there it
is past it. -/
structure SkipsAt (z : Timeline) (w : Wall) (s : Int) : Prop where
  reached : s + (z.periodAt (s - 1)).offset ≤ w.seconds
  passed : w.seconds < s + (z.periodAt s).offset

/-- What a reading becomes: an instant at which the clock shows it, if there is one, and otherwise the
instant by the offset in force just before the one second at which the clock skips it. -/
structure Localizes (z : Timeline) (w : Wall) (result : Option Instant) : Prop where
  shown : (∃ t, z.ShowsAt t w) → ∃ t, result = some t ∧ z.ShowsAt t w
  skipped : (¬ ∃ t, z.ShowsAt t w) → ∃ s t, (∀ r, z.SkipsAt w r ↔ r = s)
    ∧ w.toInstant? (z.periodAt (s - 1)).offset = some t ∧ result = some t

theorem shows_of_showsAt {t : Instant} (shown : z.ShowsAt t w) : z.Shows t.seconds w.seconds := by
  have seconds := Wall.seconds_of_toInstant? (Instant.toWall?_eq_some_iff.mp shown)
  rw [Shows]
  omega

/-- A reading within the years 1 to 9999 has an instant by any offset in force. -/
theorem Steady.exists_toInstant?_of_inside (steady : z.Steady) (inside : w.Inside) (u : Int) :
    ∃ t, w.toInstant? (z.periodAt u).offset = some t := by
  obtain ⟨low, high⟩ := inside
  have total := span_eq
  have unit : day = 86400000000 := rfl
  have moderate := steady.moderate_periodAt u
  unfold Moderate at moderate
  have within : 0 ≤ w.utcCount (z.periodAt u).offset ∧ w.utcCount (z.periodAt u).offset < span := by
    rw [Wall.utcCount, Time.second]
    omega
  exact Wall.exists_toInstant? within.1 within.2

/-- A second at which the clock shows a reading gives an instant at which it does. -/
theorem Steady.showsAt_of_shows (steady : z.Steady) (inside : w.Inside) {u : Int}
    (shown : z.Shows u w.seconds) :
    ∃ t, w.toInstant? (z.periodAt u).offset = some t ∧ z.ShowsAt t w := by
  obtain ⟨t, instant⟩ := steady.exists_toInstant?_of_inside inside u
  have seconds := Wall.seconds_of_toInstant? instant
  have same : (t.seconds : Int) = u := by
    rw [Shows] at shown
    omega
  refine ⟨t, instant, ?_⟩
  rw [ShowsAt, same]
  exact Instant.toWall?_eq_some_iff.mpr instant

section Skipped

variable {s : Int} {p q : Period} (switch : z.Switch s p q) (reached : s + p.offset ≤ w.seconds)
  (before : w.seconds < s + q.offset)

include switch reached before

/-- A reading that a change skips is shown neither before the change nor behind it. -/
theorem Steady.not_showsAt_of_skipped (steady : z.Steady) (t : Instant) : ¬ z.ShowsAt t w := by
  intro shownAt
  have shown := shows_of_showsAt shownAt
  have near := steady.near_of_shows shown
  obtain ⟨⟨minP, maxP⟩, minQ, maxQ⟩ := steady.moderate_of_switch switch
  rw [Shows] at shown
  by_cases early : (t.seconds : Int) < s
  · rw [switch.earlier _ (by omega) early] at shown
    omega
  · rw [switch.later _ (by omega) (by omega)] at shown
    omega

/-- It is skipped at the second of that change and at no other. -/
theorem Steady.skipsAt_iff (steady : z.Steady) (r : Int) : z.SkipsAt w r ↔ r = s := by
  obtain ⟨⟨minP, maxP⟩, minQ, maxQ⟩ := steady.moderate_of_switch switch
  constructor
  · rintro ⟨reachedR, passedR⟩
    have moderate := steady.moderate_periodAt (r - 1)
    have moderate' := steady.moderate_periodAt r
    unfold Moderate at moderate moderate'
    -- While one period is in force the clock skips nothing, so that r is not on either side of the change.
    rcases Int.lt_trichotomy r s with less | same | more
    · rw [switch.earlier _ (by omega) (by omega)] at reachedR passedR
      omega
    · exact same
    · rw [switch.later _ (by omega) (by omega)] at reachedR passedR
      omega
  · rintro rfl
    refine ⟨?_, ?_⟩
    · rw [switch.earlier _ (by omega) (by omega)]
      exact reached
    · rw [switch.later _ (by omega) (by omega)]
      exact before

end Skipped

/-! ## The instant of a reading -/

/-- A reading two days within the years 1 to 9999 is not refused. -/
theorem reaches_of_inside [ZoneLibrary] (z : Timeline) (inside : w.Inside) : z.Reaches w := by
  obtain ⟨low, high⟩ := inside
  exact .inr (.inr ⟨by omega, by omega⟩)

/-- A reading is given an offset on which a steady table settles. -/
theorem Steady.exists_localOffset? [ZoneLibrary] (steady : z.Steady) (inside : w.Inside) :
    ∃ offset, z.localOffset? w = some offset ∧ z.Takes w.seconds offset := by
  have whole := w.isWhole_wholeSecond
  have seconds := w.seconds_wholeSecond
  have range : 172800 ≤ w.seconds ∧ (w.seconds : Int) + 172800 < spanSeconds := by
    obtain ⟨low, high⟩ := inside
    have total := span_eq
    have unit : day = 86400000000 := rfl
    rw [Wall.seconds, Time.second, spanSeconds]
    omega
  rw [← localOffset?_wholeSecond]
  rcases steady.quiet_or_around w.seconds with ⟨p, quiet, -⟩ | ⟨s, p, q, around, after, upTo, -⟩
  · have moderate := steady.moderate_of_quiet quiet
    refine ⟨p.offset, ?_, (steady.takes_of_quiet quiet).mpr rfl⟩
    unfold Moderate at moderate
    rw [← seconds] at quiet
    have reaches : z.Reaches w.wholeSecond := by
      rcases z.reaches_of_inside inside with unchanged | lenient | surrounded
      · exact .inl unchanged
      · exact .inr (.inl lenient)
      · exact .inr (.inr ((surrounded_wholeSecond w).mpr surrounded))
    exact localOffset?_of_quiet whole quiet moderate (by omega) (by omega) reaches
  · refine ⟨_, localOffset?_around whole around (by omega) (by omega), ?_⟩
    rw [seconds]
    exact steady.takes_offsetAround around after upTo

/-- A steady table gives each reading two days within the years 1 to 9999 what it is to become. -/
theorem Steady.localizes [ZoneLibrary] (steady : z.Steady) (inside : w.Inside) : z.Localizes w (z.toInstant? w) := by
  obtain ⟨offset, found, takes⟩ := steady.exists_localOffset? inside
  have result : z.toInstant? w = w.toInstant? offset := by rw [toInstant?, found]; rfl
  have of_shown {u : Int} (shown : z.Shows u w.seconds) (by_ : offset = (z.periodAt u).offset) :
      z.Localizes w (z.toInstant? w) := by
    obtain ⟨t, instant, shownAt⟩ := steady.showsAt_of_shows inside shown
    have given : z.toInstant? w = some t := by rw [result, by_, instant]
    exact ⟨fun _ => ⟨t, given, shownAt⟩, fun never => absurd ⟨t, shownAt⟩ never⟩
  cases takes with
  | once u shown only => exact of_shown shown rfl
  | earlier u v order first second standard => exact of_shown first rfl
  | later u v order first second other => exact of_shown second rfl
  | skipped s p q switch reached before =>
    have period : z.periodAt (s - 1) = p := switch.earlier _ (by omega) (by omega)
    obtain ⟨t, instant⟩ := steady.exists_toInstant?_of_inside inside (s - 1)
    refine ⟨?_, fun _ => ⟨s, t, steady.skipsAt_iff switch reached before, instant, ?_⟩⟩
    · rintro ⟨u, shownAt⟩
      exact absurd shownAt (steady.not_showsAt_of_skipped switch reached before u)
    · rw [result, ← instant, period]

end Timeline

end FeedSieve.Time
