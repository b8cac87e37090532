import FeedSieve.Proofs.Time.Instant
import FeedSieve.Time.Timeline

/-!
# Clocks around one reading

In a steady timeline at most one change lies within a day of a reading (`quiet_or_around`), so that what its
clock does there is told by at most one change. While one period is in force its offset is found
(`localOffset?_of_quiet`), and around a change the one of `offsetAround` (`localOffset?_around`). That is the
offset of the first showing, unless the reading is shown twice and is not first on standard time and then
shifted (`offsetAround_eq_iff`).
-/
namespace FeedSieve.Time

/-- An offset of less than eighteen hours. -/
def Moderate (offset : Int) : Prop := -64800 < offset ∧ offset < 64800

instance (offset : Int) : Decidable (Moderate offset) := inferInstanceAs (Decidable (_ ∧ _))

/-- The seconds of the years 1 to 9999. -/
def spanSeconds : Int := 315537897600

namespace Timeline

/-- The clock shows a second of the wall clock at a second of UTC. -/
def Shows (z : Timeline) (u w : Int) : Prop := u + (z.periodAt u).offset = w

instance (z : Timeline) (u w : Int) : Decidable (z.Shows u w) := inferInstanceAs (Decidable (_ = _))

/-- The offset of a reading after the changes whose later side it has reached. -/
def firstOffset (current wall : Int) : List Change → Int
  | [] => current
  | c :: rest =>
    if c.second + max current c.period.offset ≤ wall then firstOffset c.period.offset wall rest
    else current

/-- Offsets are moderate, and changes lie more than two days apart and well within the years 1 to 9999. -/
structure Steady (z : Timeline) : Prop where
  first : Moderate z.first.offset
  moderate : ∀ c ∈ z.changes, Moderate c.period.offset
  spaced : z.changes.Pairwise fun c d => c.second + 172800 < d.second
  inside : ∀ c ∈ z.changes, 259200 ≤ c.second ∧ c.second + 259200 ≤ spanSeconds

/-- One period is in force within a day of a second. -/
def Quiet (z : Timeline) (w : Int) (p : Period) : Prop :=
  ∀ u, w - 86400 ≤ u → u ≤ w + 86400 → z.periodAt u = p

/-- Within two days of a second the period changes there and nowhere else. -/
structure Switch (z : Timeline) (s : Int) (p q : Period) : Prop where
  earlier : ∀ u, s - 172800 ≤ u → u < s → z.periodAt u = p
  later : ∀ u, s ≤ u → u ≤ s + 172800 → z.periodAt u = q

/-- What a reading around a change needs: it is within a day, and all instants concerned exist. -/
structure Around (z : Timeline) (s : Int) (p q : Period) : Prop where
  switch : z.Switch s p q
  before : Moderate p.offset
  behind : Moderate q.offset
  low : 259200 ≤ s
  high : s + 259200 ≤ spanSeconds

/-! ## Following the changes -/

theorem advance_of_before {cs : List Change} {u : Int} (before : ∀ c ∈ cs, u < c.second) (p : Period) :
    advance p u cs = p := by
  cases cs with
  | nil => rfl
  | cons c rest =>
    have first := before c List.mem_cons_self
    rw [advance, if_neg (by omega)]

/-- Once all changes are passed the period stays. -/
theorem advance_of_passed {cs : List Change} {u v : Int} (passed : ∀ c ∈ cs, c.second ≤ u) (le : u ≤ v)
    (p : Period) : advance p v cs = advance p u cs := by
  induction cs generalizing p with
  | nil => rfl
  | cons c rest ih =>
    have first := passed c List.mem_cons_self
    rw [advance, advance, if_pos first, if_pos (by omega),
      ih fun d member => passed d (List.mem_cons_of_mem c member)]

theorem firstOffset_of_before {cs : List Change} {w : Int} (current : Int)
    (before : ∀ c ∈ cs, w < c.second + max current c.period.offset) :
    firstOffset current w cs = current := by
  cases cs with
  | nil => rfl
  | cons c rest =>
    have first := before c List.mem_cons_self
    rw [firstOffset, if_neg (by omega)]

/-- A period that is in force at some time is the first one or that of a change. -/
theorem advance_mem (p : Period) (u : Int) (cs : List Change) :
    advance p u cs = p ∨ ∃ c ∈ cs, advance p u cs = c.period := by
  induction cs generalizing p with
  | nil => exact .inl rfl
  | cons c rest ih =>
    rw [advance]
    split
    · rcases ih c.period with first | ⟨d, member, later⟩
      · exact .inr ⟨c, List.mem_cons_self, first⟩
      · exact .inr ⟨d, List.mem_cons_of_mem c member, later⟩
    · exact .inl rfl

theorem Steady.moderate_periodAt {z : Timeline} (steady : z.Steady) (u : Int) :
    Moderate (z.periodAt u).offset := by
  rcases advance_mem z.first u z.changes with first | ⟨c, member, later⟩
  · rw [periodAt, first]
    exact steady.first
  · rw [periodAt, later]
    exact steady.moderate c member

theorem Steady.moderate_of_quiet {z : Timeline} (steady : z.Steady) {w : Int} {p : Period}
    (quiet : z.Quiet w p) : Moderate p.offset := by
  rw [← quiet w (by omega) (by omega)]
  exact steady.moderate_periodAt w

theorem Steady.moderate_of_switch {z : Timeline} (steady : z.Steady) {s : Int} {p q : Period}
    (switch : z.Switch s p q) : Moderate p.offset ∧ Moderate q.offset := by
  rw [← switch.earlier (s - 1) (by omega) (by omega), ← switch.later s (by omega) (by omega)]
  exact ⟨steady.moderate_periodAt _, steady.moderate_periodAt _⟩

section Head

variable {p q q' : Period} {c : Change} {rest : List Change} {w : Int}

/-- A timeline without its first change begins with the period of that change. -/
theorem Steady.tail (steady : Steady ⟨p, c :: rest⟩) : Steady ⟨c.period, rest⟩ where
  first := steady.moderate c List.mem_cons_self
  moderate := fun d member => steady.moderate d (List.mem_cons_of_mem c member)
  spaced := (List.pairwise_cons.mp steady.spaced).2
  inside := fun d member => steady.inside d (List.mem_cons_of_mem c member)

theorem Steady.gap (steady : Steady ⟨p, c :: rest⟩) {d : Change} (member : d ∈ rest) :
    c.second + 172800 < d.second := (List.pairwise_cons.mp steady.spaced).1 d member

theorem periodAt_before {u : Int} (before : u < c.second) : periodAt ⟨p, c :: rest⟩ u = p := by
  rw [periodAt, advance, if_neg (by omega)]

theorem periodAt_behind {u : Int} (behind : c.second ≤ u) :
    periodAt ⟨p, c :: rest⟩ u = periodAt ⟨c.period, rest⟩ u := by
  rw [periodAt, advance, if_pos behind, periodAt]

/-- What lies a day behind the first change is the same without it. -/
theorem Quiet.behind (quiet : Quiet ⟨c.period, rest⟩ w q) (passed : c.second ≤ w - 86400) :
    Quiet ⟨p, c :: rest⟩ w q := by
  intro u low high
  rw [periodAt_behind (by omega)]
  exact quiet u low high

theorem Switch.behind {s : Int} (switch : Switch ⟨c.period, rest⟩ s q q')
    (passed : c.second + 172800 < s) : Switch ⟨p, c :: rest⟩ s q q' where
  earlier u low high := by
    rw [periodAt_behind (by omega)]
    exact switch.earlier u low high
  later u low high := by
    rw [periodAt_behind (by omega)]
    exact switch.later u low high

/-- At the first change a steady timeline switches to the period of the change. -/
theorem Steady.switch_head (steady : Steady ⟨p, c :: rest⟩) :
    Switch ⟨p, c :: rest⟩ c.second p c.period where
  earlier _ _ high := periodAt_before high
  later u low high := by
    rw [periodAt_behind low]
    refine advance_of_before (fun d member => ?_) c.period
    have apart := steady.gap member
    omega

/-- A reading that is a day behind the first change has reached the later side of it. -/
theorem Steady.firstOffset_behind (steady : Steady ⟨p, c :: rest⟩) (passed : c.second ≤ w - 86400) :
    firstOffset p.offset w (c :: rest) = firstOffset c.period.offset w rest := by
  have before : Moderate p.offset := steady.first
  have behind : Moderate c.period.offset := steady.tail.first
  unfold Moderate at before behind
  rw [firstOffset, if_pos (by omega)]

/-- A reading a day before the first change has not reached the later side of it. -/
theorem Steady.firstOffset_before (steady : Steady ⟨p, c :: rest⟩) (before : w + 86400 < c.second) :
    firstOffset p.offset w (c :: rest) = p.offset := by
  have range : Moderate p.offset := steady.first
  unfold Moderate at range
  rw [firstOffset, if_neg (by omega)]

/-- A reading within a day of the first change has reached no other. -/
theorem Steady.firstOffset_at (steady : Steady ⟨p, c :: rest⟩) (upTo : w - 86400 < c.second) :
    firstOffset p.offset w (c :: rest)
      = if c.second + max p.offset c.period.offset ≤ w then c.period.offset else p.offset := by
  have others : firstOffset c.period.offset w rest = c.period.offset := by
    refine firstOffset_of_before _ fun d member => ?_
    have apart := steady.gap member
    have range := steady.tail.moderate d member
    unfold Moderate at range
    omega
  rw [firstOffset, others]

end Head

/-- Around a reading there is one period, whose offset the reading has, or one change, which the reading
is before or behind. -/
theorem Steady.quiet_or_change {z : Timeline} (steady : z.Steady) (w : Int) :
    (∃ p, z.Quiet w p ∧ firstOffset z.first.offset w z.changes = p.offset)
    ∨ ∃ c ∈ z.changes, ∃ p, z.Switch c.second p c.period ∧ w - 86400 < c.second ∧ c.second ≤ w + 86400
      ∧ firstOffset z.first.offset w z.changes
        = if c.second + max p.offset c.period.offset ≤ w then c.period.offset else p.offset := by
  obtain ⟨p, cs⟩ := z
  -- The timeline loses its first change, and its first period with it, while the reading is a day behind.
  induction cs generalizing p with
  | nil => exact .inl ⟨p, fun _ _ _ => rfl, rfl⟩
  | cons c rest ih =>
    by_cases beyond : w + 86400 < c.second
    · exact .inl ⟨p, fun u _ high => periodAt_before (by omega), steady.firstOffset_before beyond⟩
    by_cases passed : c.second ≤ w - 86400
    · have offset := steady.firstOffset_behind passed
      rcases ih c.period steady.tail with ⟨q, quiet, reading⟩ | ⟨d, member, q, switch, after, upTo, reading⟩
      · exact .inl ⟨q, quiet.behind passed, offset.trans reading⟩
      · exact .inr ⟨d, List.mem_cons_of_mem c member, q, switch.behind (steady.gap member), after, upTo,
          offset.trans reading⟩
    · exact .inr ⟨c, List.mem_cons_self, p, steady.switch_head, by omega, by omega,
        steady.firstOffset_at (by omega)⟩

/-- Within a day of a reading there is no change or one. -/
theorem Steady.quiet_or_around {z : Timeline} (steady : z.Steady) (w : Int) :
    (∃ p, z.Quiet w p ∧ firstOffset z.first.offset w z.changes = p.offset)
    ∨ ∃ s p q, z.Around s p q ∧ w - 86400 < s ∧ s ≤ w + 86400
      ∧ firstOffset z.first.offset w z.changes
        = if s + max p.offset q.offset ≤ w then q.offset else p.offset := by
  rcases steady.quiet_or_change w with quiet | ⟨c, member, p, switch, after, upTo, reading⟩
  · exact .inl quiet
  · obtain ⟨low, high⟩ := steady.inside c member
    obtain ⟨before, behind⟩ := steady.moderate_of_switch switch
    exact .inr ⟨c.second, p, c.period, ⟨switch, before, behind, low, high⟩, after, upTo, reading⟩

/-! ## Guesses -/

section Readings

variable {z : Timeline} {w : Wall}

theorem val_of_isWhole (whole : w.ticks.IsWhole) : (w.ticks.val : Int) = w.seconds * 1000000 := by
  unfold Ticks.IsWhole Time.second at whole
  rw [Wall.seconds, Time.second]
  omega

theorem seconds_lt (w : Wall) : (w.seconds : Int) < spanSeconds := by
  have bound := w.ticks.isLt
  have total := span_eq
  rw [Wall.seconds, Time.second, spanSeconds]
  omega

theorem toInstant?_eq_some_iff (whole : w.ticks.IsWhole) {offset : Int} {t : Instant} :
    w.toInstant? offset = some t ↔ (t.ticks.val : Int) = (w.seconds - offset) * 1000000 := by
  have value := val_of_isWhole whole
  rw [Wall.toInstant?_eq_some_iff, Wall.utcCount, value, Time.second]
  omega

theorem exists_toInstant? (whole : w.ticks.IsWhole) {offset : Int} (low : 0 ≤ w.seconds - offset)
    (high : w.seconds - offset < spanSeconds) :
    ∃ t, w.toInstant? offset = some t ∧ (t.ticks.val : Int) = (w.seconds - offset) * 1000000 := by
  have value := val_of_isWhole whole
  have total := span_eq
  have count : w.utcCount offset = (w.seconds - offset) * 1000000 := by
    rw [Wall.utcCount, value, Time.second]
    omega
  unfold spanSeconds at high
  have inside : 0 ≤ w.utcCount offset ∧ w.utcCount offset < span := by omega
  obtain ⟨t, found⟩ := Wall.exists_toInstant? inside.1 inside.2
  exact ⟨t, found, (toInstant?_eq_some_iff whole).mp found⟩

/-- Where a guess looks: some days away, if that is in the years 1 to 9999. -/
theorem exists_daysAway (whole : w.ticks.IsWhole) {days : Int} (low : 0 ≤ w.seconds + days * 86400)
    (high : w.seconds + days * 86400 < spanSeconds) :
    ∃ there, w.ticks.shift? (days * day) = some there
      ∧ (there.val : Int) / Time.second = w.seconds + days * 86400 := by
  have value := val_of_isWhole whole
  unfold spanSeconds at high
  obtain ⟨there, shift⟩ := Ticks.exists_shift? w.ticks (days * day)
    (by rw [day_eq]; omega) (by rw [day_eq]; omega)
  refine ⟨there, shift, ?_⟩
  rw [Ticks.shift?_eq_some_iff, day_eq] at shift
  rw [Time.second]
  omega

/-- A guess holds if the offset some days away is still in force at the instant that it gives. -/
theorem guess?_eq (z : Timeline) (w : Wall) (days : Int) : z.guess? w days =
    (w.ticks.shift? (days * day)).bind fun near =>
      (w.toInstant? (z.periodAt (near.val / Time.second)).offset).bind fun t =>
        if (z.periodAt t.seconds).offset = (z.periodAt (near.val / Time.second)).offset
        then some (z.periodAt t.seconds) else none := by
  rw [guess?]
  refine Option.bind_congr fun near _ => Option.bind_congr fun t reached => ?_
  have same : t.toWall? (z.periodAt t.seconds).offset = some w
      ↔ (z.periodAt t.seconds).offset = (z.periodAt (near.val / Time.second)).offset :=
    Instant.toWall?_eq_some_iff.trans (Wall.offset_unique reached _)
  dsimp only
  cases back : t.toWall? (z.periodAt t.seconds).offset with
  | none =>
    rw [back] at same
    rw [if_neg (fun equal => by cases same.mpr equal)]
    rfl
  | some shown =>
    rw [back, Option.some.injEq] at same
    simp only [Option.bind_eq_bind, Option.bind_some, same]

/-- A guess from the period some days away holds if the period at the instant that this gives has the same
offset. -/
theorem guess?_of_periods (whole : w.ticks.IsWhole) {days : Int} {there here : Period}
    (low : 0 ≤ w.seconds + days * 86400) (high : w.seconds + days * 86400 < spanSeconds)
    (near : z.periodAt (w.seconds + days * 86400) = there) (first : 0 ≤ w.seconds - there.offset)
    (last : w.seconds - there.offset < spanSeconds) (reached : z.periodAt (w.seconds - there.offset) = here) :
    z.guess? w days = if here.offset = there.offset then some here else none := by
  obtain ⟨t, found, -⟩ := exists_toInstant? whole first last
  obtain ⟨away, shift, second⟩ := exists_daysAway whole low high
  rw [guess?_eq, shift, Option.bind_some, second, near, found, Option.bind_some,
    Wall.seconds_of_toInstant? found, reached]

theorem guess?_of_outside (whole : w.ticks.IsWhole) {days : Int}
    (outside : ¬ (0 ≤ w.seconds + days * 86400 ∧ w.seconds + days * 86400 < spanSeconds)) :
    z.guess? w days = none := by
  have value := val_of_isWhole whole
  unfold spanSeconds at outside
  have gone : w.ticks.shift? (days * day) = none := Ticks.shift?_eq_none (by rw [day_eq]; omega)
  rw [guess?, gone]
  rfl

/-! ## One period -/

theorem choose_self (p : Period) : choose p p = p := by simp [choose]

variable {p q : Period} {s : Int}

/-- Where one period is in force, its offset is found. -/
theorem nearby?_of_quiet (whole : w.ticks.IsWhole) (quiet : z.Quiet w.seconds p)
    (moderate : Moderate p.offset) (first : 0 ≤ w.seconds - p.offset)
    (last : w.seconds - p.offset < spanSeconds) : z.nearby? w = some p.offset := by
  unfold Moderate at moderate
  have here : z.periodAt (w.seconds - p.offset) = p := quiet _ (by omega) (by omega)
  have made {days : Int} (low : -1 ≤ days) (high : days ≤ 1)
      (inside : 0 ≤ w.seconds + days * 86400 ∧ w.seconds + days * 86400 < spanSeconds) :
      z.guess? w days = some p := by
    have near : z.periodAt (w.seconds + days * 86400) = p := quiet _ (by omega) (by omega)
    rw [guess?_of_periods whole inside.1 inside.2 near first last here, if_pos rfl]
  have either (days : Int) (low : -1 ≤ days) (high : days ≤ 1) :
      z.guess? w days = some p ∨ z.guess? w days = none := by
    by_cases inside : 0 ≤ w.seconds + days * 86400 ∧ w.seconds + days * 86400 < spanSeconds
    · exact .inl (made low high inside)
    · exact .inr (guess?_of_outside whole inside)
  rw [nearby?]
  rcases either (-1) (by decide) (by decide) with before | before <;>
    rcases either 1 (by decide) (by decide) with behind | behind <;> rw [before, behind]
  · rw [settle, choose_self]
  · rfl
  · rfl
  · -- The years 1 to 9999 do not end within a day on both sides, so that one of the guesses is made.
    exfalso
    have bound := seconds_lt w
    unfold spanSeconds at bound made
    by_cases early : (w.seconds : Int) < 86400
    · rw [made (by decide) (by decide) (by omega)] at behind
      cases behind
    · rw [made (by decide) (by decide) (by omega)] at before
      cases before

/-! ## One change -/

/-- The offset that is found around a change: of the two that show the reading the chosen one; a reading
that is skipped keeps the offset before the change. -/
def offsetAround (s : Int) (p q : Period) (w : Int) : Int :=
  if s + q.offset ≤ w ∧ w < s + p.offset then (choose p q).offset
  else if w < s + max p.offset q.offset then p.offset else q.offset

theorem guess?_before (whole : w.ticks.IsWhole) (around : z.Around s p q)
    (after : (w.seconds : Int) - 86400 < s) (upTo : s ≤ w.seconds + 86400) :
    z.guess? w (-1) =
      if w.seconds < s + p.offset then some p else if q.offset = p.offset then some q else none := by
  obtain ⟨switch, ⟨minP, maxP⟩, -, low, high⟩ := around
  unfold spanSeconds at high
  have near : z.periodAt (w.seconds + -1 * 86400) = p := switch.earlier _ (by omega) (by omega)
  have guess {here : Period} (reached : z.periodAt (w.seconds - p.offset) = here) :=
    guess?_of_periods whole (by omega) (by unfold spanSeconds; omega) near (by omega)
      (by unfold spanSeconds; omega) reached
  by_cases early : (w.seconds : Int) < s + p.offset
  · rw [guess (switch.earlier _ (by omega) (by omega)), if_pos rfl, if_pos early]
  · rw [guess (switch.later _ (by omega) (by omega)), if_neg early]

theorem guess?_behind (whole : w.ticks.IsWhole) (around : z.Around s p q)
    (after : (w.seconds : Int) - 86400 < s) (upTo : s ≤ w.seconds + 86400) :
    z.guess? w 1 =
      if s + q.offset ≤ w.seconds then some q else if p.offset = q.offset then some p else none := by
  obtain ⟨switch, -, ⟨minQ, maxQ⟩, low, high⟩ := around
  unfold spanSeconds at high
  have near : z.periodAt (w.seconds + 1 * 86400) = q := switch.later _ (by omega) (by omega)
  have guess {here : Period} (reached : z.periodAt (w.seconds - q.offset) = here) :=
    guess?_of_periods whole (by omega) (by unfold spanSeconds; omega) near (by omega)
      (by unfold spanSeconds; omega) reached
  by_cases late : s + q.offset ≤ w.seconds
  · rw [guess (switch.later _ (by omega) (by omega)), if_pos rfl, if_pos late]
  · rw [guess (switch.earlier _ (by omega) (by omega)), if_neg late]

/-- Around a change an offset is found, unless the reading is skipped. -/
theorem nearby?_around (whole : w.ticks.IsWhole) (around : z.Around s p q)
    (after : (w.seconds : Int) - 86400 < s) (upTo : s ≤ w.seconds + 86400) :
    z.nearby? w = if s + p.offset ≤ w.seconds ∧ w.seconds < s + q.offset then none
      else some (offsetAround s p q w.seconds) := by
  rw [nearby?, guess?_before whole around after upTo, guess?_behind whole around after upTo, offsetAround]
  by_cases early : (w.seconds : Int) < s + p.offset <;> by_cases late : s + q.offset ≤ w.seconds
  · have shown : ¬ (s + p.offset ≤ w.seconds ∧ w.seconds < s + q.offset) := by omega
    rw [if_pos early, if_pos late, if_neg shown, if_pos ⟨late, early⟩, settle]
  · have shown : ¬ (s + p.offset ≤ w.seconds ∧ w.seconds < s + q.offset) := by omega
    have once : ¬ (s + q.offset ≤ w.seconds ∧ w.seconds < s + p.offset) := by omega
    have before : (w.seconds : Int) < s + max p.offset q.offset := by omega
    rw [if_pos early, if_neg late, if_neg shown, if_neg once, if_pos before]
    split
    · rw [settle, choose_self]
    · rw [settle]
  · have shown : ¬ (s + p.offset ≤ w.seconds ∧ w.seconds < s + q.offset) := by omega
    have once : ¬ (s + q.offset ≤ w.seconds ∧ w.seconds < s + p.offset) := by omega
    have behind : ¬ (w.seconds : Int) < s + max p.offset q.offset := by omega
    rw [if_neg early, if_pos late, if_neg shown, if_neg once, if_neg behind]
    split
    · rw [settle, choose_self]
    · rw [settle]
  · have skipped : s + p.offset ≤ w.seconds ∧ w.seconds < s + q.offset := by omega
    have different : ¬ p.offset = q.offset := by omega
    rw [if_neg early, if_neg late, if_pos skipped, if_neg different, if_neg (Ne.symm different), settle]

/-- A reading that is skipped has the offset before the change, and so have those six hours earlier. -/
theorem offsetAround_skipped {w : Int} (behind : w < s + q.offset) (gap : p.offset < q.offset) :
    offsetAround s p q w = p.offset := by
  rw [offsetAround, if_neg (by omega), if_pos (by omega)]

theorem seconds_of_putBack? (whole : w.ticks.IsWhole) {v : Wall} (back : putBack? w = some v) :
    v.ticks.IsWhole ∧ (v.seconds : Int) = w.seconds - 21600 := by
  have value := val_of_isWhole whole
  have hours : (sixHours : Int) = 21600 * 1000000 := rfl
  obtain ⟨moved, shift, rfl⟩ := Option.map_eq_some_iff.mp back
  rw [Ticks.shift?_eq_some_iff] at shift
  constructor
  · rw [Ticks.IsWhole, Time.second]
    dsimp only
    omega
  · rw [Wall.seconds, Time.second]
    dsimp only
    omega

theorem exists_putBack? (whole : w.ticks.IsWhole) (late : 21600 ≤ (w.seconds : Int)) :
    ∃ v, putBack? w = some v ∧ v.ticks.IsWhole ∧ (v.seconds : Int) = w.seconds - 21600 := by
  have value := val_of_isWhole whole
  have bound := seconds_lt w
  have hours : (sixHours : Int) = 21600 * 1000000 := rfl
  unfold spanSeconds at bound
  obtain ⟨moved, shift⟩ := Ticks.exists_shift? w.ticks (-(sixHours : Int)) (by omega) (by omega)
  have back : putBack? w = some ⟨moved⟩ := by rw [putBack?, shift]; rfl
  exact ⟨⟨moved⟩, back, seconds_of_putBack? whole back⟩

/-! ## Refused readings -/

theorem surrounded_of_seconds (whole : w.ticks.IsWhole) (low : 86400 ≤ (w.seconds : Int))
    (high : (w.seconds : Int) + 86400 < spanSeconds) : w.Surrounded := by
  have value := val_of_isWhole whole
  have total := span_eq
  have unit := day_eq
  unfold spanSeconds at high
  constructor <;> omega

/-- A reading within a day of a change is a day within the years 1 to 9999. -/
theorem surrounded_around (whole : w.ticks.IsWhole) (around : z.Around s p q)
    (after : (w.seconds : Int) - 86400 < s) (upTo : s ≤ w.seconds + 86400) : w.Surrounded := by
  obtain ⟨-, -, -, low, high⟩ := around
  exact surrounded_of_seconds whole (by omega) (by omega)

theorem periodAt_of_unchanged (unchanged : z.changes = []) (u : Int) : z.periodAt u = z.first := by
  rw [periodAt, unchanged, advance]

section Library

variable [ZoneLibrary]

/-- The library looks for the offset of a reading: there is nothing to look for, or it accepts the days around
the reading. -/
def Reaches (z : Timeline) (w : Wall) : Prop :=
  z.changes = [] ∨ ZoneLibrary.strict = false ∨ w.Surrounded

theorem admit?_of_surrounded (surrounded : w.Surrounded) : admit? w = some w := by
  rw [admit?, if_neg]
  rintro ⟨-, outside⟩
  exact outside surrounded

theorem admit?_of_reaches (reaches : z.Reaches w) (changing : z.changes ≠ []) : admit? w = some w := by
  rcases reaches with unchanged | lenient | surrounded
  · exact absurd unchanged changing
  · rw [admit?, lenient, if_neg (by simp)]
  · exact admit?_of_surrounded surrounded

theorem eq_of_admit? {v : Wall} (admitted : admit? w = some v) : v = w := by
  rw [admit?] at admitted
  split at admitted
  · cases admitted
  · exact (Option.some.inj admitted).symm

theorem localOffset?_of_not_reaches (refused : ¬ z.Reaches w) : z.localOffset? w = none := by
  rw [Reaches, not_or, not_or] at refused
  obtain ⟨changing, strict, outside⟩ := refused
  have refuses : admit? w = none := by
    rw [admit?, if_pos ⟨by simpa using strict, outside⟩]
  rw [localOffset?, if_neg changing, refuses]
  rfl

/-- The search around a change ends with the offset there, given an attempt for each six hours. -/
theorem search_around {attempts : Nat} (whole : w.ticks.IsWhole) (around : z.Around s p q)
    (after : (w.seconds : Int) - 86400 < s) (upTo : s ≤ w.seconds + 86400)
    (enough : w.seconds / 21600 < attempts) :
    search z.nearby? earlier? attempts w = some (offsetAround s p q w.seconds) := by
  induction attempts generalizing w with
  | zero => omega
  | succ attempts ih =>
    have found := nearby?_around whole around after upTo
    rw [search, found]
    split
    · rename_i skipped
      obtain ⟨-, ⟨minP, maxP⟩, -, low, high⟩ := around
      obtain ⟨v, back, wholeV, seconds⟩ := exists_putBack? whole (by omega)
      -- The gap is less than 36 hours wide, so that six hours before the reading are still around it.
      have earlier := ih wholeV (by omega) (by omega) (by omega)
      have gap : p.offset < q.offset := by omega
      have admitted := admit?_of_surrounded (surrounded_of_seconds wholeV (by omega) (by omega))
      rw [earlier?, back, Option.bind_some, admitted, Option.none_or, Option.bind_some, earlier,
        offsetAround_skipped (by omega) gap, offsetAround_skipped (by omega) gap]
    · rw [Option.some_or]

/-! ## The offset of a reading -/

theorem localOffset?_of_quiet (whole : w.ticks.IsWhole) (quiet : z.Quiet w.seconds p)
    (moderate : Moderate p.offset) (first : 0 ≤ w.seconds - p.offset)
    (last : w.seconds - p.offset < spanSeconds) (reaches : z.Reaches w) :
    z.localOffset? w = some p.offset := by
  rw [localOffset?]
  split
  · rename_i unchanged
    rw [← periodAt_of_unchanged unchanged w.seconds, quiet _ (by omega) (by omega)]
  · rename_i changing
    rw [admit?_of_reaches reaches changing, Option.bind_some, search,
      nearby?_of_quiet whole quiet moderate first last, Option.some_or]

theorem localOffset?_around (whole : w.ticks.IsWhole) (around : z.Around s p q)
    (after : (w.seconds : Int) - 86400 < s) (upTo : s ≤ w.seconds + 86400) :
    z.localOffset? w = some (offsetAround s p q w.seconds) := by
  rw [localOffset?]
  split
  · rename_i unchanged
    have before : p = z.first := by
      rw [← periodAt_of_unchanged unchanged (s - 1), around.switch.earlier _ (by omega) (by omega)]
    have behind : q = z.first := by
      rw [← periodAt_of_unchanged unchanged s, around.switch.later _ (by omega) (by omega)]
    rw [before, behind, offsetAround, if_neg (by omega), ite_self]
  · have value := val_of_isWhole whole
    have hours : sixHours = 21600 * 1000000 := rfl
    rw [admit?_of_surrounded (surrounded_around whole around after upTo), Option.bind_some, hours]
    exact search_around whole around after upTo (by omega)

end Library

end Readings

/-! ## A table beside the whole history -/

/-- Whenever the clock shows a reading twice, it is first on standard time and then shifted. -/
def StandardFirst (z : Timeline) (w : Int) : Prop :=
  ∀ u v, u < v → z.Shows u w → z.Shows v w →
    (z.periodAt u).shifted = false ∧ (z.periodAt v).shifted = true

/-- Two timelines have the same periods within three days of a second. -/
def Agrees (z history : Timeline) (w : Int) : Prop :=
  ∀ u, w - 259200 ≤ u → u ≤ w + 259200 → z.periodAt u = history.periodAt u

variable {z history : Timeline} {p q : Period} {s n : Int}

theorem Agrees.quiet (agrees : z.Agrees history n) (quiet : history.Quiet n p) : z.Quiet n p := by
  intro u low high
  rw [agrees u (by omega) (by omega)]
  exact quiet u low high

theorem Agrees.around (agrees : z.Agrees history n) (around : history.Around s p q) (after : n - 86400 < s)
    (upTo : s ≤ n + 86400) : z.Around s p q where
  switch := by
    constructor
    · intro u low high
      rw [agrees u (by omega) (by omega)]
      exact around.switch.earlier u low high
    · intro u low high
      rw [agrees u (by omega) (by omega)]
      exact around.switch.later u low high
  before := around.before
  behind := around.behind
  low := around.low
  high := around.high

theorem Steady.near_of_shows (steady : history.Steady) {u n : Int} (shown : history.Shows u n) :
    n - 64800 ≤ u ∧ u ≤ n + 64800 := by
  have range := steady.moderate_periodAt u
  unfold Shows at shown
  unfold Moderate at range
  omega

/-- While one period is in force no reading is shown twice. -/
theorem Steady.standardFirst_of_quiet (steady : history.Steady) {n : Int} (quiet : history.Quiet n p) :
    history.StandardFirst n := by
  intro u v before showsU showsV
  have nearU := steady.near_of_shows showsU
  have nearV := steady.near_of_shows showsV
  rw [Shows, quiet u (by omega) (by omega)] at showsU
  rw [Shows, quiet v (by omega) (by omega)] at showsV
  omega

/-- Around a change a reading is shown twice where the clocks were put back by more than has passed. -/
theorem Steady.standardFirst_around (steady : history.Steady) (around : history.Around s p q) {n : Int}
    (after : n - 86400 < s) (upTo : s ≤ n + 86400) :
    history.StandardFirst n ↔
      (s + q.offset ≤ n → n < s + p.offset → p.shifted = false ∧ q.shifted = true) := by
  obtain ⟨switch, ⟨minP, maxP⟩, ⟨minQ, maxQ⟩, -, -⟩ := around
  constructor
  · intro order late early
    have before : history.periodAt (n - p.offset) = p := switch.earlier _ (by omega) (by omega)
    have behind : history.periodAt (n - q.offset) = q := switch.later _ (by omega) (by omega)
    have found := order (n - p.offset) (n - q.offset) (by omega)
      (by rw [Shows, before]; omega) (by rw [Shows, behind]; omega)
    rw [before, behind] at found
    exact found
  · intro order u v before showsU showsV
    have nearU := steady.near_of_shows showsU
    have nearV := steady.near_of_shows showsV
    -- On one side of the change a reading is shown once, so that the two showings lie around it.
    by_cases early : u < s
    · have periodU : history.periodAt u = p := switch.earlier _ (by omega) early
      by_cases late : s ≤ v
      · have periodV : history.periodAt v = q := switch.later _ late (by omega)
        rw [Shows, periodU] at showsU
        rw [Shows, periodV] at showsV
        rw [periodU, periodV]
        exact order (by omega) (by omega)
      · rw [Shows, periodU] at showsU
        rw [Shows, switch.earlier _ (by omega) (by omega)] at showsV
        omega
    · rw [Shows, switch.later _ (by omega) (by omega)] at showsU
      rw [Shows, switch.later _ (by omega) (by omega)] at showsV
      omega

/-- Of the two periods of a repeated reading the first is chosen exactly if it alone is standard time. -/
theorem choose_offset_eq_iff (back : q.offset < p.offset) :
    (choose p q).offset = p.offset ↔ p.shifted = false ∧ q.shifted = true := by
  have further : ¬ p.offset ≤ q.offset := by omega
  unfold choose
  cases p.shifted <;> cases q.shifted <;> simp [further] <;> omega

/-- The offset that is found is that of the first showing, unless the reading is shown twice and is not
first on standard time and then shifted. -/
theorem offsetAround_eq_iff (s : Int) (p q : Period) (n : Int) :
    offsetAround s p q n = (if s + max p.offset q.offset ≤ n then q.offset else p.offset) ↔
      (s + q.offset ≤ n → n < s + p.offset → p.shifted = false ∧ q.shifted = true) := by
  unfold offsetAround
  by_cases twice : s + q.offset ≤ n ∧ n < s + p.offset
  · have first : ¬ s + max p.offset q.offset ≤ n := by omega
    rw [if_pos twice, if_neg first, choose_offset_eq_iff (by omega)]
    exact ⟨fun order _ _ => order, fun order => order twice.1 twice.2⟩
  · rw [if_neg twice]
    constructor
    · intro _ late early
      exact absurd ⟨late, early⟩ twice
    · intro _
      split <;> split <;> omega

end Timeline

end FeedSieve.Time
