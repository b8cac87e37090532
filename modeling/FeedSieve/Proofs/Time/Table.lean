import FeedSieve.Proofs.Time.Zone

/-!
# The table of a zone

The table of whole minutes has the periods of the history between the end of 1901 and the start of 2038
(`Regular.periodAt_timeline`), and its first or last period outside. It is steady, so that it gives a reading
the instant of an offset exactly if it takes that offset and the library does not refuse the reading
(`Regular.toInstant?_timeline_iff_takes`). Which offset that is depends on where the reading lies
(`Regular.takes_inside`, `Regular.takes_after`, `Regular.takes_before`).
-/
namespace FeedSieve.Time.Zone

/-! ## Inside -/

/-- The table has the periods of the changes that it is made of, while seconds fit 32 bits. -/
theorem advance_fitting {u : Int} (low : earliest ≤ u) (high : u ≤ latest) (p : Period) (cs : List Change) :
    Timeline.advance p u (fitting cs) = Timeline.advance p u cs := by
  have reached : ∀ c ∈ cs.takeWhile (·.second < earliest), c.second ≤ u := by
    intro c member
    have early := List.all_eq_true.mp List.all_takeWhile c member
    rw [decide_eq_true_eq] at early
    omega
  have whole := Timeline.advance_append_of_reached reached p (cs.dropWhile (·.second < earliest))
  rw [List.takeWhile_append_dropWhile] at whole
  rw [whole, fitting]
  cases (cs.takeWhile (·.second < earliest)).getLast? with
  | some c => exact (if_pos low).trans (Timeline.advance_takeWhile high c.period _)
  | none => exact Timeline.advance_takeWhile high p _

/-- The rule's changes from the year 2038 on do not fit 32-bit seconds. -/
theorem Regular.exists_later {z : Zone} (regular : z.Regular) : ∃ later,
    z.changesThrough 9999 = z.changesThrough 2037 ++ later ∧ ∀ c ∈ later, latest < c.second := by
  rcases regular.rule_cases with none_ | ⟨r, init, last, some_, regularRule, split, joins⟩
  · refine ⟨[], ?_, by simp⟩
    rw [changesThrough_of_none none_, changesThrough_of_none none_, List.append_nil]
  · have ends : z.changes.getLast? = some last := by rw [split, List.getLast?_concat]
    obtain ⟨p, q, first, second, cycle⟩ := regularRule.cycle
    let from_ := averageYear last.second
    let known := 2037 + 1 - from_
    -- The years up to 2037 are the same; those behind them only add changes.
    have years : yearsFrom last.second 9999
        = yearsFrom last.second 2037 ++ List.range' (from_ + known) (9999 + 1 - from_ - known) := by
      rw [yearsFrom, yearsFrom, List.range'_append_1, Nat.add_sub_cancel' (by omega)]
    refine ⟨((List.range' (from_ + known) (9999 + 1 - from_ - known)).flatMap r.changes).filter
      (last.second < ·.second), ?_, ?_⟩
    · rw [changesThrough_of_some some_ ends, changesThrough_of_some some_ ends, years, List.flatMap_append,
        List.filter_append, List.append_assoc]
    · intro c member
      have next : yearStart 2038 = 64281513600 := rfl
      have start := cycle.start_of_mem (by omega) (List.mem_filter.mp member).1
      have mono := yearStart_mono (by decide : 1 ≤ 2038) (by omega : 2038 ≤ from_ + known)
      unfold latest
      omega

/-- While seconds fit 32 bits the table has the periods of the history, in whole minutes. -/
theorem Regular.periodAt_timeline {z : Zone} (regular : z.Regular) {u : Int} (low : earliest ≤ u)
    (high : u ≤ latest) : z.timeline.periodAt u = wholeMinutes (z.history.periodAt u) := by
  obtain ⟨later, all, behind⟩ := regular.exists_later
  have fits : ∀ c ∈ later, u < c.second := fun c member => Int.lt_of_le_of_lt high (behind c member)
  rw [Timeline.periodAt, timeline, Timeline.advance_map, advance_fitting low high, Timeline.periodAt, history,
    all, Timeline.advance_append_of_before fits]

theorem wholeMinutes_of_dvd {p : Period} (minutes : p.offset % 60 = 0) : wholeMinutes p = p := by
  have same : Int.fdiv (p.offset + 30) 60 * 60 = p.offset := by
    rw [Int.fdiv_eq_ediv_of_nonneg _ (by decide)]
    omega
  rw [wholeMinutes, same]

/-- Around a reading whose seconds fit 32 bits the table has the periods of the history, if these are whole
minutes. -/
theorem Regular.agrees {z : Zone} (regular : z.Regular) {w : Int} (low : earliest + 259200 ≤ w)
    (high : w + 259200 ≤ latest)
    (minutes : ∀ u, w - 259200 ≤ u → u ≤ w + 259200 → (z.history.periodAt u).offset % 60 = 0) :
    z.timeline.Agrees z.history w := by
  intro u first last
  rw [regular.periodAt_timeline (by omega) (by omega), wholeMinutes_of_dvd (minutes u first last)]

/-! ## What fits 32-bit seconds -/

/-- The changes that come within 32-bit seconds. -/
def within (cs : List Change) : List Change :=
  (cs.dropWhile (·.second < earliest)).takeWhile (·.second ≤ latest)

theorem within_sublist (cs : List Change) : (within cs).Sublist cs :=
  (List.takeWhile_sublist _).trans (List.dropWhile_sublist _)

/-- Changes that fit are those within 32-bit seconds, perhaps after one that gathers earlier changes. -/
theorem fitting_cases (cs : List Change) :
    fitting cs = within cs ∨ ∃ c ∈ cs, fitting cs = ⟨earliest, c.period⟩ :: within cs := by
  rw [fitting]
  cases last : (cs.takeWhile (·.second < earliest)).getLast? with
  | none => exact .inl rfl
  | some c => exact .inr ⟨c, (List.takeWhile_sublist _).subset (List.mem_of_getLast? last), rfl⟩

theorem le_of_mem_dropWhile {cs : List Change} (ordered : cs.Pairwise (·.second < ·.second)) {start : Int}
    {c : Change} (member : c ∈ cs.dropWhile (·.second < start)) : start ≤ c.second := by
  induction ordered with
  | nil => cases member
  | cons above ordered ih =>
    rename_i d rest
    rw [List.dropWhile_cons] at member
    split at member
    · exact ih member
    · rename_i stopped
      have reached : start ≤ d.second := Int.not_lt.mp fun early => stopped (decide_eq_true early)
      rcases List.mem_cons.mp member with rfl | later
      · exact reached
      · have := above c later
        omega

theorem bounds_of_mem_within {cs : List Change} (ordered : cs.Pairwise (·.second < ·.second)) {c : Change}
    (member : c ∈ within cs) : earliest ≤ c.second ∧ c.second ≤ latest :=
  ⟨le_of_mem_dropWhile ordered ((List.takeWhile_sublist _).subset member),
    of_decide_eq_true (List.all_eq_true.mp List.all_takeWhile c member)⟩

theorem bounds_of_mem_fitting {cs : List Change} (ordered : cs.Pairwise (·.second < ·.second)) {c : Change}
    (member : c ∈ fitting cs) : earliest ≤ c.second ∧ c.second ≤ latest := by
  have order : earliest ≤ latest := by decide
  rcases fitting_cases cs with same | ⟨d, -, same⟩ <;> rw [same] at member
  · exact bounds_of_mem_within ordered member
  · rcases List.mem_cons.mp member with rfl | member
    · exact ⟨Int.le_refl _, order⟩
    · exact bounds_of_mem_within ordered member

/-- A change that fits has the period of one of the changes. -/
theorem period_of_mem_fitting {cs : List Change} {c : Change} (member : c ∈ fitting cs) :
    ∃ d ∈ cs, c.period = d.period := by
  rcases fitting_cases cs with same | ⟨d, inAll, same⟩ <;> rw [same] at member
  · exact ⟨c, (within_sublist cs).subset member, rfl⟩
  · rcases List.mem_cons.mp member with rfl | member
    · exact ⟨d, inAll, rfl⟩
    · exact ⟨c, (within_sublist cs).subset member, rfl⟩

/-- The changes up to the year 2037 are among those of the history. -/
theorem Regular.mem_history {z : Zone} (regular : z.Regular) {c : Change}
    (member : c ∈ z.changesThrough 2037) : c ∈ z.history.changes := by
  obtain ⟨later, all, -⟩ := regular.exists_later
  rw [history, all]
  exact List.mem_append_left later member

theorem Regular.spaced_through {z : Zone} (regular : z.Regular) :
    (z.changesThrough 2037).Pairwise fun c d => c.second + 172800 < d.second := by
  obtain ⟨later, all, -⟩ := regular.exists_later
  have spaced : (z.changesThrough 9999).Pairwise _ := regular.steady.spaced
  rw [all] at spaced
  exact (List.pairwise_append.mp spaced).1

theorem Regular.ordered_through {z : Zone} (regular : z.Regular) :
    (z.changesThrough 2037).Pairwise (·.second < ·.second) :=
  regular.spaced_through.imp (by omega)

/-- Changes that fit lie more than two days apart, the one at the start included. -/
theorem Regular.spaced_fitting {z : Zone} (regular : z.Regular) :
    (fitting (z.changesThrough 2037)).Pairwise fun c d => c.second + 172800 < d.second := by
  have inner := regular.spaced_through.sublist (within_sublist _)
  rcases fitting_cases (z.changesThrough 2037) with same | ⟨d, -, same⟩ <;> rw [same]
  · exact inner
  · refine .cons (fun c member => ?_) inner
    have since := (bounds_of_mem_within regular.ordered_through member).1
    exact regular.settled_history c (regular.mem_history ((within_sublist _).subset member)) since

theorem moderate_wholeMinutes {p : Period} (usual : Usual p.offset) :
    Moderate (wholeMinutes p).offset := by
  unfold Usual at usual
  unfold Moderate
  rw [wholeMinutes, Int.fdiv_eq_ediv_of_nonneg _ (by decide)]
  dsimp only
  omega

/-- The table of a regular zone is steady. -/
theorem Regular.steady_timeline {z : Zone} (regular : z.Regular) : z.timeline.Steady := by
  refine ⟨moderate_wholeMinutes regular.first, ?_, ?_, ?_⟩
  · intro c member
    obtain ⟨d, fits, rfl⟩ := List.mem_map.mp member
    obtain ⟨e, inAll, same⟩ := period_of_mem_fitting fits
    refine moderate_wholeMinutes ?_
    rw [same]
    exact regular.usual_history e (regular.mem_history inAll)
  · exact List.pairwise_map.mpr regular.spaced_fitting
  · intro c member
    obtain ⟨d, fits, rfl⟩ := List.mem_map.mp member
    have bounds := bounds_of_mem_fitting regular.ordered_through fits
    unfold earliest latest at bounds
    unfold spanSeconds
    dsimp only
    omega

/-- The table gives the instant of an offset exactly if the reading is not refused and it takes that offset. -/
theorem Regular.toInstant?_timeline_iff_takes [ZoneLibrary] {z : Zone} (regular : z.Regular) {w : Wall}
    (whole : w.ticks.IsWhole) {offset : Int} {t : Instant} (instant : w.toInstant? offset = some t) :
    z.timeline.toInstant? w = some t ↔ z.timeline.Reaches w ∧ z.timeline.Takes w.seconds offset :=
  regular.steady_timeline.toInstant?_iff_takes whole instant

/-- Inside 32-bit seconds, at offsets of whole minutes, the table takes the offset of the first showing exactly
if the reading is not shown twice or is shown first on standard time and then shifted. -/
theorem Regular.takes_inside {z : Zone} (regular : z.Regular) {w : Wall}
    (agrees : z.timeline.Agrees z.history w.seconds) :
    z.timeline.Takes w.seconds (z.exactOffset w) ↔ z.history.StandardFirst w.seconds := by
  rw [regular.exactOffset_eq]
  exact regular.steady.takes_firstOffset_iff regular.steady_timeline agrees

/-! ## Outside -/

/-- After 32-bit seconds the table stays in its last period. -/
theorem Regular.periodAt_timeline_after {z : Zone} (regular : z.Regular) {u : Int} (after : latest ≤ u) :
    z.timeline.periodAt u = wholeMinutes (z.history.periodAt latest) := by
  have passed (c : Change) (member : c ∈ fitting (z.changesThrough 2037)) : c.second ≤ latest :=
    (bounds_of_mem_fitting regular.ordered_through member).2
  rw [← regular.periodAt_timeline (by decide) (Int.le_refl latest)]
  simp only [Timeline.periodAt, timeline, Timeline.advance_map, Timeline.advance_of_passed passed after]

/-- Before 32-bit seconds the table is in its first period. -/
theorem Regular.periodAt_timeline_before {z : Zone} (regular : z.Regular) {u : Int} (before : u < earliest) :
    z.timeline.periodAt u = wholeMinutes ⟨z.first, false⟩ := by
  have behind (c : Change) (member : c ∈ fitting (z.changesThrough 2037)) : u < c.second :=
    Int.lt_of_lt_of_le before (bounds_of_mem_fitting regular.ordered_through member).1
  rw [Timeline.periodAt, timeline, Timeline.advance_map, Timeline.advance_of_before behind]

/-- A day after 32-bit seconds the table takes the offset that it ends with. -/
theorem Regular.takes_after {z : Zone} (regular : z.Regular) {n o : Int} (after : latest + 86400 ≤ n) :
    z.timeline.Takes n o ↔ o = (wholeMinutes (z.history.periodAt latest)).offset :=
  regular.steady_timeline.takes_of_quiet fun _ low _ => regular.periodAt_timeline_after (by omega)

/-- A day before 32-bit seconds it takes the first offset of the zone, in whole minutes. -/
theorem Regular.takes_before {z : Zone} (regular : z.Regular) {n o : Int} (before : n + 86400 < earliest) :
    z.timeline.Takes n o ↔ o = (wholeMinutes ⟨z.first, false⟩).offset :=
  regular.steady_timeline.takes_of_quiet fun _ _ high => regular.periodAt_timeline_before (by omega)

end FeedSieve.Time.Zone
