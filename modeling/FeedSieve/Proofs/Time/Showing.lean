import FeedSieve.Proofs.Time.Timeline

/-!
# The offset that a clock gives a reading

A reading is shown once, twice or never. `TakesFirst` is the offset of the first showing, `Takes` that of
the showing a table settles on; a reading that is never shown has the offset before the change that skips
it. `Steady.toInstant?_iff_takes`: a steady table gives the instant of an offset exactly if it takes it and
the library does not refuse the reading.
-/
namespace FeedSieve.Time.Timeline

/-- The offset at which a clock first shows a reading, or the one before the change that skips it. -/
inductive TakesFirst (z : Timeline) (w : Int) : Int → Prop where
  | shown (u : Int) (shown : z.Shows u w) (first : ∀ v, z.Shows v w → u ≤ v) :
      TakesFirst z w (z.periodAt u).offset
  | skipped (s : Int) (p q : Period) (switch : z.Switch s p q) (reached : s + p.offset ≤ w)
      (before : w < s + q.offset) : TakesFirst z w p.offset

/-- The offset that a table settles on: that of the only showing; of two showings the first, if it is on
standard time and the second is not, or else the second; and the one before the change that skips the
reading. -/
inductive Takes (z : Timeline) (w : Int) : Int → Prop where
  | once (u : Int) (shown : z.Shows u w) (only : ∀ v, z.Shows v w → v = u) :
      Takes z w (z.periodAt u).offset
  | earlier (u v : Int) (order : u < v) (first : z.Shows u w) (second : z.Shows v w)
      (standard : (z.periodAt u).shifted = false ∧ (z.periodAt v).shifted = true) :
      Takes z w (z.periodAt u).offset
  | later (u v : Int) (order : u < v) (first : z.Shows u w) (second : z.Shows v w)
      (other : ¬ ((z.periodAt u).shifted = false ∧ (z.periodAt v).shifted = true)) :
      Takes z w (z.periodAt v).offset
  | skipped (s : Int) (p q : Period) (switch : z.Switch s p q) (reached : s + p.offset ≤ w)
      (before : w < s + q.offset) : Takes z w p.offset

variable {z : Timeline} {n o : Int} {p q : Period} {s : Int}

/-! ## While one period is in force -/

theorem Steady.shows_iff_of_quiet (steady : z.Steady) (quiet : z.Quiet n p) (u : Int) :
    z.Shows u n ↔ u = n - p.offset := by
  have moderate := steady.moderate_of_quiet quiet
  unfold Moderate at moderate
  constructor
  · intro shown
    have near := steady.near_of_shows shown
    rw [Shows, quiet u (by omega) (by omega)] at shown
    omega
  · rintro rfl
    rw [Shows, quiet _ (by omega) (by omega)]
    omega

/-- No reading is skipped while one period is in force. -/
theorem Steady.not_skipped_of_quiet (steady : z.Steady) (quiet : z.Quiet n p) {p' q' : Period}
    (switch : z.Switch s p' q') (reached : s + p'.offset ≤ n) : ¬ n < s + q'.offset := by
  intro before
  obtain ⟨⟨minP, maxP⟩, minQ, maxQ⟩ := steady.moderate_of_switch switch
  have periodP := switch.earlier (s - 1) (by omega) (by omega)
  have periodQ := switch.later s (by omega) (by omega)
  rw [quiet _ (by omega) (by omega)] at periodP periodQ
  subst periodP periodQ
  omega

theorem Steady.takes_of_quiet (steady : z.Steady) (quiet : z.Quiet n p) : z.Takes n o ↔ o = p.offset := by
  have shows_ := steady.shows_iff_of_quiet quiet
  have period {u : Int} (shown : z.Shows u n) : z.periodAt u = p := by
    have near := steady.near_of_shows shown
    exact quiet u (by omega) (by omega)
  constructor
  · intro takes
    cases takes with
    | once u shown only => rw [period shown]
    | earlier u v order first second standard => rw [period first]
    | later u v order first second other => rw [period second]
    | skipped s p' q' switch reached before =>
      exact absurd before (steady.not_skipped_of_quiet quiet switch reached)
  · rintro rfl
    have shown := (shows_ (n - p.offset)).mpr rfl
    have once := Takes.once _ shown fun v again => (shows_ v).mp again
    rwa [period shown] at once

theorem Steady.takesFirst_of_quiet (steady : z.Steady) (quiet : z.Quiet n p) :
    z.TakesFirst n p.offset := by
  have shows_ := steady.shows_iff_of_quiet quiet
  have shown := (shows_ (n - p.offset)).mpr rfl
  have near := steady.near_of_shows shown
  have period : z.periodAt (n - p.offset) = p := quiet _ (by omega) (by omega)
  have first := TakesFirst.shown _ shown fun v again => Int.le_of_eq ((shows_ v).mp again).symm
  rwa [period] at first

/-! ## Around a change -/

theorem choose_eq_or (p q : Period) : choose p q = p ∨ choose p q = q := by
  unfold choose
  split
  · split
    · exact .inl rfl
    · exact .inr rfl
  · split
    · exact .inr rfl
    · exact .inl rfl

theorem offsetAround_behind (late : s + q.offset ≤ n) (passed : s + p.offset ≤ n) :
    offsetAround s p q n = q.offset := by
  rw [offsetAround, if_neg (by omega), if_neg (by omega)]

theorem offsetAround_before (early : n < s + p.offset) (ahead : n < s + q.offset) :
    offsetAround s p q n = p.offset := by
  rw [offsetAround, if_neg (by omega), if_pos (by omega)]

theorem offsetAround_standard (late : s + q.offset ≤ n) (early : n < s + p.offset)
    (standard : p.shifted = false ∧ q.shifted = true) : offsetAround s p q n = p.offset := by
  rw [offsetAround, if_pos ⟨late, early⟩]
  exact (choose_offset_eq_iff (by omega)).mpr standard

theorem offsetAround_other (late : s + q.offset ≤ n) (early : n < s + p.offset)
    (other : ¬ (p.shifted = false ∧ q.shifted = true)) : offsetAround s p q n = q.offset := by
  rw [offsetAround, if_pos ⟨late, early⟩]
  rcases choose_eq_or p q with same | same
  · exact absurd ((choose_offset_eq_iff (by omega)).mp (by rw [same])) other
  · rw [same]

section Around

variable (around : z.Around s p q) (after : n - 86400 < s) (upTo : s ≤ n + 86400)

include around after upTo

/-- Around a change a reading is shown before it, at the offset there, and behind it. -/
theorem Steady.shows_around (steady : z.Steady) {u : Int} (shown : z.Shows u n) :
    (u < s ∧ z.periodAt u = p ∧ u = n - p.offset) ∨ (s ≤ u ∧ z.periodAt u = q ∧ u = n - q.offset) := by
  have near := steady.near_of_shows shown
  by_cases early : u < s
  · have period := around.switch.earlier u (by omega) early
    rw [Shows, period] at shown
    exact .inl ⟨early, period, by omega⟩
  · have period := around.switch.later u (by omega) (by omega)
    rw [Shows, period] at shown
    exact .inr ⟨by omega, period, by omega⟩

theorem shows_before (early : n < s + p.offset) :
    z.Shows (n - p.offset) n ∧ z.periodAt (n - p.offset) = p := by
  obtain ⟨minP, maxP⟩ := around.before
  have period := around.switch.earlier (n - p.offset) (by omega) (by omega)
  exact ⟨by rw [Shows, period]; omega, period⟩

theorem shows_behind (late : s + q.offset ≤ n) :
    z.Shows (n - q.offset) n ∧ z.periodAt (n - q.offset) = q := by
  obtain ⟨minQ, maxQ⟩ := around.behind
  have period := around.switch.later (n - q.offset) (by omega) (by omega)
  exact ⟨by rw [Shows, period]; omega, period⟩

/-- Only this change can skip a reading around it. -/
theorem Steady.skipping_around (steady : z.Steady) {s' : Int} {p' q' : Period}
    (switch : z.Switch s' p' q') (reached : s' + p'.offset ≤ n) (before : n < s' + q'.offset) :
    s' = s ∧ p' = p ∧ q' = q := by
  obtain ⟨⟨minP, maxP⟩, minQ, maxQ⟩ := steady.moderate_of_switch switch
  have periodP := switch.earlier (s' - 1) (by omega) (by omega)
  have periodQ := switch.later s' (by omega) (by omega)
  -- The period changes between the second before the other change and that change.
  have same : s' = s := by
    rcases Int.lt_trichotomy s' s with less | same | more
    · rw [around.switch.earlier _ (by omega) (by omega)] at periodP periodQ
      subst periodP periodQ
      omega
    · exact same
    · rw [around.switch.later _ (by omega) (by omega)] at periodP periodQ
      subst periodP periodQ
      omega
  subst same
  rw [around.switch.earlier _ (by omega) (by omega)] at periodP
  rw [around.switch.later _ (by omega) (by omega)] at periodQ
  exact ⟨rfl, periodP.symm, periodQ.symm⟩

/-- An offset that the table settles on around a change is the one that is found there. -/
theorem Steady.eq_offsetAround_of_takes (steady : z.Steady) (takes : z.Takes n o) :
    o = offsetAround s p q n := by
  have shows_ {v : Int} (shown : z.Shows v n) := steady.shows_around around after upTo shown
  cases takes with
  | once u shown only =>
    rcases shows_ shown with ⟨early, period, same⟩ | ⟨late, period, same⟩
    · have ahead : n < s + q.offset := by
        apply Int.not_le.mp
        intro late
        have again := only _ (shows_behind around after upTo late).1
        omega
      rw [period, offsetAround_before (by omega) ahead]
    · have passed : s + p.offset ≤ n := by
        apply Int.not_lt.mp
        intro early
        have again := only _ (shows_before around after upTo early).1
        omega
      rw [period, offsetAround_behind (by omega) passed]
  | earlier u v order first second standard =>
    rcases shows_ first with ⟨early, periodU, sameU⟩ | ⟨late, periodU, sameU⟩ <;>
      rcases shows_ second with ⟨earlyV, periodV, sameV⟩ | ⟨lateV, periodV, sameV⟩
    · omega
    · rw [periodU, periodV] at standard
      rw [periodU, offsetAround_standard (by omega) (by omega) standard]
    · omega
    · omega
  | later u v order first second other =>
    rcases shows_ first with ⟨early, periodU, sameU⟩ | ⟨late, periodU, sameU⟩ <;>
      rcases shows_ second with ⟨earlyV, periodV, sameV⟩ | ⟨lateV, periodV, sameV⟩
    · omega
    · rw [periodU, periodV] at other
      rw [periodV, offsetAround_other (by omega) (by omega) other]
    · omega
    · omega
  | skipped s' p' q' switch reached ahead =>
    obtain ⟨rfl, rfl, rfl⟩ := steady.skipping_around around after upTo switch reached ahead
    rw [offsetAround_skipped ahead (by omega)]

/-- The offset that is found around a change is one that the table settles on. -/
theorem Steady.takes_offsetAround (steady : z.Steady) : z.Takes n (offsetAround s p q n) := by
  have shows_ {v : Int} (shown : z.Shows v n) := steady.shows_around around after upTo shown
  by_cases late : s + q.offset ≤ n
  · obtain ⟨second, periodQ⟩ := shows_behind around after upTo late
    by_cases early : n < s + p.offset
    · obtain ⟨first, periodP⟩ := shows_before around after upTo early
      by_cases standard : p.shifted = false ∧ q.shifted = true
      · rw [offsetAround_standard late early standard, ← congrArg Period.offset periodP]
        exact .earlier _ _ (by omega) first second (by rw [periodP, periodQ]; exact standard)
      · rw [offsetAround_other late early standard, ← congrArg Period.offset periodQ]
        exact .later _ _ (by omega) first second (by rw [periodP, periodQ]; exact standard)
    · rw [offsetAround_behind late (by omega), ← congrArg Period.offset periodQ]
      refine .once _ second fun v shown => ?_
      rcases shows_ shown with ⟨earlyV, -, same⟩ | ⟨-, -, same⟩
      · omega
      · exact same
  · by_cases early : n < s + p.offset
    · obtain ⟨first, periodP⟩ := shows_before around after upTo early
      rw [offsetAround_before early (by omega), ← congrArg Period.offset periodP]
      refine .once _ first fun v shown => ?_
      rcases shows_ shown with ⟨-, -, same⟩ | ⟨lateV, -, same⟩
      · exact same
      · omega
    · rw [offsetAround_skipped (by omega) (by omega)]
      exact .skipped s p q around.switch (by omega) (by omega)

theorem Steady.takes_around_iff (steady : z.Steady) : z.Takes n o ↔ o = offsetAround s p q n := by
  constructor
  · exact steady.eq_offsetAround_of_takes around after upTo
  · rintro rfl
    exact steady.takes_offsetAround around after upTo

/-- The first showing is the one before the change, if the reading is not past it. -/
theorem Steady.takesFirst_around (steady : z.Steady) :
    z.TakesFirst n (if s + max p.offset q.offset ≤ n then q.offset else p.offset) := by
  have shows_ {v : Int} (shown : z.Shows v n) := steady.shows_around around after upTo shown
  by_cases passed : s + max p.offset q.offset ≤ n
  · obtain ⟨second, periodQ⟩ := shows_behind around after upTo (by omega)
    rw [if_pos passed, ← congrArg Period.offset periodQ]
    refine .shown _ second fun v shown => ?_
    rcases shows_ shown with ⟨early, -, same⟩ | ⟨-, -, same⟩ <;> omega
  · rw [if_neg passed]
    by_cases early : n < s + p.offset
    · obtain ⟨first, periodP⟩ := shows_before around after upTo early
      rw [← congrArg Period.offset periodP]
      refine .shown _ first fun v shown => ?_
      rcases shows_ shown with ⟨-, -, same⟩ | ⟨late, -, same⟩ <;> omega
    · exact .skipped s p q around.switch (by omega) (by omega)

end Around

/-- Going through the changes gives the offset of the first showing. -/
theorem Steady.takesFirst (steady : z.Steady) (n : Int) :
    z.TakesFirst n (firstOffset z.first.offset n z.changes) := by
  rcases steady.quiet_or_around n with ⟨p, quiet, offset⟩ | ⟨s, p, q, around, after, upTo, offset⟩
  · rw [offset]
    exact steady.takesFirst_of_quiet quiet
  · rw [offset]
    exact steady.takesFirst_around around after upTo

/-- A table that has the periods of a history within three days of a reading takes the offset of its first
showing exactly if the reading is not shown twice or is shown first on standard time and then shifted. -/
theorem Steady.takes_firstOffset_iff {history : Timeline} (steady : history.Steady) (table : z.Steady)
    (agrees : z.Agrees history n) :
    z.Takes n (firstOffset history.first.offset n history.changes) ↔ history.StandardFirst n := by
  rcases steady.quiet_or_around n with ⟨p, quiet, offset⟩ | ⟨s, p, q, around, after, upTo, offset⟩
  · rw [offset, table.takes_of_quiet (agrees.quiet quiet)]
    exact ⟨fun _ => steady.standardFirst_of_quiet quiet, fun _ => rfl⟩
  · rw [offset, table.takes_around_iff (agrees.around around after upTo) after upTo,
      steady.standardFirst_around around after upTo, ← offsetAround_eq_iff]
    exact eq_comm

/-! ## The instant of a reading -/

/-- No change comes within three days of the ends of the years 1 to 9999. -/
theorem Steady.periodAt_of_end (steady : z.Steady) {u v : Int}
    (ends : (u < 259200 ∧ v < 259200) ∨ (spanSeconds - 259200 ≤ u ∧ spanSeconds - 259200 ≤ v)) :
    z.periodAt u = z.periodAt v := by
  rcases ends with ⟨lowU, lowV⟩ | ⟨highU, highV⟩
  · have before {n : Int} (low : n < 259200) (c : Change) (member : c ∈ z.changes) : n < c.second := by
      have := (steady.inside c member).1
      omega
    rw [periodAt, periodAt, advance_of_before (before lowU), advance_of_before (before lowV)]
  · have passed (c : Change) (member : c ∈ z.changes) : c.second ≤ spanSeconds - 259200 := by
      have := (steady.inside c member).2
      omega
    rw [periodAt, periodAt, advance_of_passed passed highU, advance_of_passed passed highV]

section Readings

variable {w : Wall}

/-- A guess that would lead out of the years 1 to 9999 fails. -/
theorem guess?_of_unreached {days : Int} (near : z.periodAt (w.seconds + days * 86400) = p)
    (whole : w.ticks.IsWhole) (unreached : w.toInstant? p.offset = none) : z.guess? w days = none := by
  by_cases inside : 0 ≤ w.seconds + days * 86400 ∧ w.seconds + days * 86400 < spanSeconds
  · obtain ⟨there, shift, second⟩ := exists_daysAway whole inside.1 inside.2
    rw [guess?, shift]
    simp only [Option.bind_eq_bind, Option.bind_some, second, near, unreached, Option.bind_none]
  · exact guess?_of_outside whole inside

theorem toInstant?_eq_none (whole : w.ticks.IsWhole) {offset : Int}
    (unreached : w.toInstant? offset = none) :
    w.seconds - offset < 0 ∨ spanSeconds ≤ w.seconds - offset := by
  have total := span_eq
  have value := val_of_isWhole whole
  rw [Wall.toInstant?_eq_none_iff, Wall.utcCount, value, Time.second] at unreached
  unfold spanSeconds
  omega

variable [ZoneLibrary]

/-- Near the ends of the years 1 to 9999 a search finds the offset in force there, if any. -/
theorem search_of_end {attempts : Nat} {n : Int} (whole : w.ticks.IsWhole) (moderate : Moderate p.offset)
    (quiet : ∀ u, n - 172800 ≤ u → u ≤ n + 86400 → z.periodAt u = p)
    (ends : n < 64800 ∨ (spanSeconds - 64800 ≤ n ∧ n < spanSeconds)) (low : n - 86400 ≤ w.seconds)
    (high : w.seconds ≤ n) (found : search z.nearby? earlier? attempts w = some o) : o = p.offset := by
  -- The search goes back until a reading has an instant, and by then has not left the one period.
  induction attempts generalizing w with
  | zero => cases found
  | succ attempts ih =>
    rw [search] at found
    cases reached : w.toInstant? p.offset with
    | some t =>
      have bound := t.ticks.isLt
      have total := span_eq
      have instant := (toInstant?_eq_some_iff whole).mp reached
      have here : z.Quiet w.seconds p := fun u first last => quiet u (by omega) (by omega)
      rw [nearby?_of_quiet whole here moderate (by omega) (by unfold spanSeconds; omega),
        Option.some_or] at found
      exact (Option.some.inj found).symm
    | none =>
      have none_ (days : Int) (first : -1 ≤ days) (last : days ≤ 1) : z.guess? w days = none :=
        guess?_of_unreached (quiet _ (by omega) (by omega)) whole reached
      rw [nearby?, none_ (-1) (by decide) (by decide), none_ 1 (by decide) (by decide), settle,
        Option.none_or] at found
      obtain ⟨v, back, later⟩ := Option.bind_eq_some_iff.mp found
      obtain ⟨moved, back, admitted⟩ := Option.bind_eq_some_iff.mp back
      rw [eq_of_admit? admitted] at later
      obtain ⟨wholeV, seconds⟩ := seconds_of_putBack? whole back
      have outside := toInstant?_eq_none whole reached
      unfold Moderate at moderate
      unfold spanSeconds at ends outside
      exact ih wholeV (by omega) (by omega) later

/-- A reading whose instant by the offset in force does not exist has none. -/
theorem Steady.toInstant?_of_unreached (steady : z.Steady) (whole : w.ticks.IsWhole)
    (quiet : z.Quiet w.seconds p) (unreached : w.toInstant? p.offset = none) : z.toInstant? w = none := by
  have moderate := steady.moderate_of_quiet quiet
  have outside := toInstant?_eq_none whole unreached
  have bound := seconds_lt w
  cases found : z.localOffset? w with
  | none => rw [toInstant?, found]; rfl
  | some offset =>
    have same : offset = p.offset := by
      rw [localOffset?] at found
      split at found
      · rename_i unchanged
        rw [← quiet w.seconds (by omega) (by omega), periodAt_of_unchanged unchanged]
        exact (Option.some.inj found).symm
      · have ends : (w.seconds : Int) < 64800 ∨ spanSeconds - 64800 ≤ w.seconds := by
          unfold Moderate at moderate
          omega
        have wide (u : Int) (low : w.seconds - 172800 ≤ u) (high : u ≤ w.seconds + 86400) :
            z.periodAt u = p := by
          rw [← quiet w.seconds (by omega) (by omega)]
          refine steady.periodAt_of_end ?_
          unfold spanSeconds at ends ⊢
          omega
        obtain ⟨admitted, same, found⟩ := Option.bind_eq_some_iff.mp found
        rw [eq_of_admit? same] at found
        exact search_of_end whole moderate wide (by omega) (by omega) (Int.le_refl _) found
    rw [toInstant?, found, same]
    exact unreached

/-- A reading that is not refused becomes the instant of the offset that a steady table takes. -/
theorem Steady.toInstant?_iff_takes_of_reaches (steady : z.Steady) (whole : w.ticks.IsWhole)
    (reaches : z.Reaches w) {t : Instant} (instant : w.toInstant? o = some t) :
    z.toInstant? w = some t ↔ z.Takes w.seconds o := by
  have same (offset : Int) : w.toInstant? offset = some t ↔ o = offset := by
    rw [toInstant?_eq_some_iff whole] at instant ⊢
    omega
  rcases steady.quiet_or_around w.seconds with ⟨p, quiet, -⟩ | ⟨s, p, q, around, after, upTo, -⟩
  · rw [steady.takes_of_quiet quiet, ← same]
    cases reached : w.toInstant? p.offset with
    | none => rw [steady.toInstant?_of_unreached whole quiet reached]
    | some u =>
      have moderate := steady.moderate_of_quiet quiet
      have bound := u.ticks.isLt
      have total := span_eq
      have seconds := (toInstant?_eq_some_iff whole).mp reached
      have found := localOffset?_of_quiet whole quiet moderate (by omega)
        (by unfold spanSeconds; omega) reaches
      rw [toInstant?, found, ← reached]
      rfl
  · rw [steady.takes_around_iff around after upTo, ← same, toInstant?,
      localOffset?_around whole around after upTo]
    rfl

theorem toInstant?_of_not_reaches (refused : ¬ z.Reaches w) : z.toInstant? w = none := by
  rw [toInstant?, localOffset?_of_not_reaches refused]
  rfl

/-- A steady table gives the instant of an offset exactly if the reading is not refused and the table takes
that offset. -/
theorem Steady.toInstant?_iff_takes (steady : z.Steady) (whole : w.ticks.IsWhole) {t : Instant}
    (instant : w.toInstant? o = some t) :
    z.toInstant? w = some t ↔ z.Reaches w ∧ z.Takes w.seconds o := by
  by_cases reaches : z.Reaches w
  · rw [and_iff_right reaches]
    exact steady.toInstant?_iff_takes_of_reaches whole reaches instant
  · rw [toInstant?_of_not_reaches reaches]
    exact iff_of_false nofun fun both => reaches both.1

end Readings

end FeedSieve.Time.Timeline
