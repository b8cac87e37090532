import FeedSieve.Proofs.Time.Timeline
import FeedSieve.Proofs.Time.Year
import FeedSieve.Time.Zone

/-!
# Yearly rules

The two days of a regular rule lie well within the year and weeks apart. So the changes of all its years
follow one another in time, and the offset that the rule gives a reading from the days of its year alone
is the one found by going through the changes of all years (`Cycle.firstOffset_years`).
-/
namespace FeedSieve.Time

/-- An offset of at most sixteen hours, as all zones have. -/
def Usual (offset : Int) : Prop := -57600 ≤ offset ∧ offset ≤ 57600

instance (offset : Int) : Decidable (Usual offset) := inferInstanceAs (Decidable (_ ∧ _))

theorem Usual.moderate {offset : Int} (usual : Usual offset) : Moderate offset := by
  unfold Usual at usual
  unfold Moderate
  omega

/-- A day from March to November, and a time of day that may reach a day before it or three behind it. -/
def YearDay.Regular (d : YearDay) : Prop :=
  (3 ≤ d.month ∧ d.month ≤ 11) ∧ (1 ≤ d.week ∧ d.week ≤ 5) ∧ -86400 ≤ d.seconds ∧ d.seconds ≤ 259200

instance (d : YearDay) : Decidable d.Regular := inferInstanceAs (Decidable (_ ∧ _ ∧ _))

/-- Two regular days with a month between them, and usual offsets. -/
def YearlyRule.Regular (r : YearlyRule) : Prop :=
  (Usual r.standard.offset ∧ Usual r.summer.offset) ∧ (r.starts.Regular ∧ r.ends.Regular) ∧
    (r.starts.month + 2 ≤ r.ends.month ∨ r.ends.month + 2 ≤ r.starts.month)

instance (r : YearlyRule) : Decidable r.Regular := inferInstanceAs (Decidable (_ ∧ _ ∧ _))

namespace YearDay

variable {d e : YearDay}

theorem second_bounds (regular : d.Regular) (year : Nat) :
    yearStart year + 5011200 ≤ d.second year ∧ d.second year ≤ yearStart year + 29116800 := by
  obtain ⟨⟨march, november⟩, ⟨first, fifth⟩, low, high⟩ := regular
  have month := daysBeforeMonth_bounds year march november
  have day := nthWeekday_bounds year d.month first fifth d.weekday
  unfold second yearStart
  omega

/-- Two days with a month between them are more than three weeks apart. -/
theorem second_gap (regular : d.Regular) (other : e.Regular) (apart : d.month + 2 ≤ e.month)
    (year : Nat) : d.second year + 2160000 ≤ e.second year := by
  obtain ⟨⟨march, -⟩, ⟨first, fifth⟩, -, high⟩ := regular
  obtain ⟨-, ⟨first', fifth'⟩, low, -⟩ := other
  have day := nthWeekday_bounds year d.month first fifth d.weekday
  have day' := nthWeekday_bounds year e.month first' fifth' e.weekday
  have next := daysBeforeMonth_succ year d.month (by omega)
  have between : daysBeforeMonth year (d.month + 2) = _ :=
    daysBeforeMonth_succ year (d.month + 1) (by omega)
  have month := (daysInMonth_bounds year (d.month + 1)).1
  have later := daysBeforeMonth_mono year (by omega) apart
  unfold second
  omega

end YearDay

/-! ## The cycle of a rule -/

/-- The changes of a rule in the order of the year: to a period `p`, and back to a period `q`. -/
structure YearlyRule.Cycle (r : YearlyRule) (p q : Period) (first second : Nat → Int) : Prop where
  changes : ∀ year, r.changes year = [⟨first year, p⟩, ⟨second year, q⟩]
  offset : ∀ year wall, r.offset year wall =
    if first year + max q.offset p.offset ≤ wall ∧ wall < second year + max p.offset q.offset
    then p.offset else q.offset
  begins : ∀ year, yearStart year + 4320000 ≤ first year
  apart : ∀ year, first year + 1728000 ≤ second year
  ends : ∀ year, 1 ≤ year → second year + 1728000 ≤ yearStart (year + 1)
  usual : Usual p.offset ∧ Usual q.offset

theorem YearlyRule.offset_eq (r : YearlyRule) (year : Nat) (wall : Int) :
    r.offset year wall =
      let starts := r.starts.second year - r.standard.offset + max r.standard.offset r.summer.offset
      let ends := r.ends.second year - r.summer.offset + max r.summer.offset r.standard.offset
      if (if starts < ends then starts ≤ wall ∧ wall < ends else ¬ (ends ≤ wall ∧ wall < starts))
      then r.summer.offset else r.standard.offset := by
  have starts : (r.starts.second year
      + if 0 ≤ r.summer.offset - r.standard.offset then r.summer.offset - r.standard.offset else 0)
      = r.starts.second year - r.standard.offset + max r.standard.offset r.summer.offset := by
    split <;> omega
  have ends : (r.ends.second year
      - if 0 ≤ r.summer.offset - r.standard.offset then 0 else r.summer.offset - r.standard.offset)
      = r.ends.second year - r.summer.offset + max r.summer.offset r.standard.offset := by
    split <;> omega
  unfold offset
  dsimp only
  rw [starts, ends]
  split <;> simp only [decide_eq_true_eq]

/-- Two regular days with a month between them make a cycle: a rule that changes to `p` on the first and back
to `q` on the second needs its changes and its offsets known only where the days keep their order. -/
theorem YearlyRule.cycle_of_days {r : YearlyRule} {d e : YearDay} {p q : Period} (regular : d.Regular)
    (other : e.Regular) (apart : d.month + 2 ≤ e.month) (usual : Usual p.offset ∧ Usual q.offset)
    (changes : ∀ year, d.second year - q.offset < e.second year - p.offset →
      r.changes year = [⟨d.second year - q.offset, p⟩, ⟨e.second year - p.offset, q⟩])
    (offset : ∀ year wall,
      d.second year - q.offset + max q.offset p.offset < e.second year - p.offset + max p.offset q.offset →
      r.offset year wall =
        if d.second year - q.offset + max q.offset p.offset ≤ wall
          ∧ wall < e.second year - p.offset + max p.offset q.offset then p.offset else q.offset) :
    r.Cycle p q (fun year => d.second year - q.offset) (fun year => e.second year - p.offset) := by
  have gap (year : Nat) := YearDay.second_gap regular other apart year
  have range := usual
  unfold Usual at range
  exact {
    changes := fun year => changes year (by have := gap year; omega)
    offset := fun year wall => offset year wall (by have := gap year; omega)
    begins := fun year => by
      have := YearDay.second_bounds regular year
      omega
    apart := fun year => by
      have := gap year
      omega
    ends := fun year later => by
      have := YearDay.second_bounds other year
      have := yearStart_succ later
      omega
    usual := usual }

/-- A regular rule has a cycle: clocks are shifted in the middle of the year, or around its turn. -/
theorem YearlyRule.Regular.cycle {r : YearlyRule} (regular : r.Regular) :
    ∃ p q first second, r.Cycle p q first second := by
  obtain ⟨⟨standard, summer⟩, ⟨starts, ends⟩, north | south⟩ := regular
  · refine ⟨_, _, _, _, cycle_of_days starts ends north ⟨summer, standard⟩ (fun year order => ?_)
      fun year wall order => ?_⟩
    · rw [changes, if_pos (by dsimp only; omega)]
    · rw [offset_eq]
      simp only [if_pos order]
  · refine ⟨_, _, _, _, cycle_of_days ends starts south ⟨standard, summer⟩ (fun year order => ?_)
      fun year wall order => ?_⟩
    · rw [changes, if_neg (by dsimp only; omega)]
    · -- The rule is written for a summer inside the year, so that here its test stands negated.
      have back := Int.not_lt.mpr (Int.le_of_lt order)
      rw [offset_eq]
      simp only [if_neg back, ite_not]

/-! ## Going through the years -/

namespace YearlyRule.Cycle

variable {r : YearlyRule} {p q : Period} {first second : Nat → Int}

/-- The changes of a number of years. -/
theorem mem_years (cycle : r.Cycle p q first second) {from_ count : Nat} {c : Change}
    (member : c ∈ (List.range' from_ count).flatMap r.changes) :
    ∃ year, from_ ≤ year ∧ year < from_ + count ∧ (c = ⟨first year, p⟩ ∨ c = ⟨second year, q⟩) := by
  obtain ⟨year, inRange, inYear⟩ := List.mem_flatMap.mp member
  rw [cycle.changes, List.mem_cons, List.mem_singleton] at inYear
  rw [List.mem_range'_1] at inRange
  exact ⟨year, inRange.1, inRange.2, inYear⟩

/-- The changes from a year on lie fifty days behind its start. -/
theorem start_of_mem (cycle : r.Cycle p q first second) {from_ count : Nat} (positive : 1 ≤ from_)
    {c : Change} (member : c ∈ (List.range' from_ count).flatMap r.changes) :
    yearStart from_ + 4320000 ≤ c.second := by
  obtain ⟨year, low, -, same⟩ := cycle.mem_years member
  have mono := yearStart_mono positive low
  have begins := cycle.begins year
  have apart := cycle.apart year
  rcases same with rfl | rfl <;> dsimp only <;> omega

/-- The changes before a year lie twenty days before its start. -/
theorem end_of_mem (cycle : r.Cycle p q first second) {from_ count : Nat} (positive : 1 ≤ from_)
    {c : Change} (member : c ∈ (List.range' from_ count).flatMap r.changes) :
    c.second + 1728000 ≤ yearStart (from_ + count) := by
  obtain ⟨year, low, high, same⟩ := cycle.mem_years member
  have mono := yearStart_mono (Nat.le_add_left 1 year) (by omega : year + 1 ≤ from_ + count)
  have apart := cycle.apart year
  have ends := cycle.ends year (by omega)
  rcases same with rfl | rfl <;> dsimp only <;> omega

/-- The offsets of a cycle are those of the rule. -/
theorem offset_le (cycle : r.Cycle p q first second) :
    p.offset ≤ max r.standard.offset r.summer.offset ∧ q.offset ≤ max r.standard.offset r.summer.offset := by
  have both := cycle.changes 1
  unfold YearlyRule.changes at both
  dsimp only at both
  split at both
  all_goals
    simp only [List.cons.injEq, Change.mk.injEq] at both
    obtain ⟨⟨-, rfl⟩, ⟨-, rfl⟩, -⟩ := both
    exact ⟨by omega, by omega⟩

theorem period_of_mem (cycle : r.Cycle p q first second) {from_ count : Nat} {c : Change}
    (member : c ∈ (List.range' from_ count).flatMap r.changes) : c.period = p ∨ c.period = q := by
  obtain ⟨year, -, -, same⟩ := cycle.mem_years member
  rcases same with rfl | rfl
  · exact .inl rfl
  · exact .inr rfl

theorem range'_flatMap (cycle : r.Cycle p q first second) (from_ count : Nat) :
    (List.range' from_ (count + 1)).flatMap r.changes =
      ⟨first from_, p⟩ :: ⟨second from_, q⟩ :: (List.range' (from_ + 1) count).flatMap r.changes := by
  rw [List.range'_succ, List.flatMap_cons, cycle.changes]
  rfl

/-- Changes of a rule lie more than two days apart. -/
theorem pairwise_years (cycle : r.Cycle p q first second) {from_ : Nat} (positive : 1 ≤ from_)
    (count : Nat) : ((List.range' from_ count).flatMap r.changes).Pairwise
      fun c d => c.second + 172800 < d.second := by
  induction count generalizing from_ with
  | zero => exact .nil
  | succ count ih =>
    have apart := cycle.apart from_
    have ends := cycle.ends from_ positive
    have later (c : Change) (member : c ∈ (List.range' (from_ + 1) count).flatMap r.changes) :=
      cycle.start_of_mem (Nat.le_add_left 1 from_) member
    rw [cycle.range'_flatMap]
    refine .cons (fun c member => ?_) (.cons (fun c member => ?_) (ih (Nat.le_add_left 1 from_)))
    · rcases List.mem_cons.mp member with rfl | member
      · dsimp only
        omega
      · have := later c member
        dsimp only
        omega
    · have := later c member
      dsimp only
      omega

/-- Going through the changes of all years gives a reading the offset that the rule gives it by the days of
its year. -/
theorem firstOffset_years (cycle : r.Cycle p q first second) {from_ count year : Nat} {wall : Int}
    (positive : 1 ≤ from_) (low : from_ ≤ year) (high : year < from_ + count)
    (since : yearStart year ≤ wall) (before : wall < yearStart (year + 1)) :
    Timeline.firstOffset q.offset wall ((List.range' from_ count).flatMap r.changes)
      = r.offset year wall := by
  have usual := cycle.usual
  unfold Usual at usual
  induction count generalizing from_ with
  | zero => omega
  | succ count ih =>
    have begins := cycle.begins from_
    have apart := cycle.apart from_
    have ends := cycle.ends from_ positive
    rw [cycle.range'_flatMap, Timeline.firstOffset]
    dsimp only
    -- The changes of an earlier year are passed. In the year of the reading its own two decide, and later
    -- ones are not reached.
    by_cases now : year = from_
    · rw [now] at since before ⊢
      rw [cycle.offset]
      have rest : Timeline.firstOffset q.offset wall
          ((List.range' (from_ + 1) count).flatMap r.changes) = q.offset := by
        refine Timeline.firstOffset_of_before _ fun c member => ?_
        have start := cycle.start_of_mem (Nat.le_add_left 1 from_) member
        rcases cycle.period_of_mem member with same | same <;> rw [same] <;> omega
      rw [Timeline.firstOffset, rest]
      dsimp only
      by_cases reached : first from_ + max q.offset p.offset ≤ wall
      · by_cases passed : second from_ + max p.offset q.offset ≤ wall
        · rw [if_pos reached, if_pos passed, if_neg (by omega)]
        · rw [if_pos reached, if_neg passed, if_pos (by omega)]
      · rw [if_neg reached, if_neg (fun both => reached both.1)]
    · have mono := yearStart_mono (Nat.le_add_left 1 from_) (by omega : from_ + 1 ≤ year)
      rw [if_pos (by omega), Timeline.firstOffset]
      dsimp only
      rw [if_pos (by omega)]
      exact ih (Nat.le_add_left 1 from_) (by omega) (by omega)

end YearlyRule.Cycle

end FeedSieve.Time
