import FeedSieve.Proofs.Time.Showing
import FeedSieve.Proofs.Time.YearlyRule

/-!
# The history of a zone

A zone stands for one steady timeline, `Zone.history`: its record, followed by the changes of its rule. The
offset that a zone gives a reading by record and rule is the one found by going through that timeline
(`Regular.exactOffset_eq`): that of the first showing (`Regular.takesFirst`).
-/
namespace FeedSieve.Time

/-! ## Following two lists in turn -/

namespace Timeline

variable {u : Int} {cs early later : List Change}

theorem advance_append_of_reached (reached : ∀ c ∈ early, c.second ≤ u) (p : Period) (cs : List Change) :
    advance p u (early ++ cs) = advance ((early.getLast?.map Change.period).getD p) u cs := by
  induction early generalizing p with
  | nil => rfl
  | cons c rest ih =>
    rw [List.cons_append, advance, if_pos (reached c List.mem_cons_self),
      ih (fun d member => reached d (List.mem_cons_of_mem c member)), List.getLast?_cons]
    cases rest.getLast? <;> rfl

theorem advance_append_of_before (before : ∀ c ∈ later, u < c.second) (p : Period) (cs : List Change) :
    advance p u (cs ++ later) = advance p u cs := by
  induction cs generalizing p with
  | nil => exact advance_of_before before p
  | cons c rest ih => rw [List.cons_append, advance, advance, ih c.period]

/-- The changes after a later time do not count. -/
theorem advance_takeWhile {last : Int} (le : u ≤ last) (p : Period) (cs : List Change) :
    advance p u (cs.takeWhile (·.second ≤ last)) = advance p u cs := by
  induction cs generalizing p with
  | nil => rfl
  | cons c rest ih =>
    rw [List.takeWhile_cons]
    by_cases kept : c.second ≤ last
    · rw [if_pos (decide_eq_true kept), advance, advance, ih c.period]
    · rw [if_neg (by rwa [decide_eq_true_eq]), advance, advance, if_neg (by omega)]

theorem advance_map (f : Period → Period) (p : Period) (u : Int) (cs : List Change) :
    advance (f p) u (cs.map fun c => ⟨c.second, f c.period⟩) = f (advance p u cs) := by
  induction cs generalizing p with
  | nil => rfl
  | cons c rest ih =>
    rw [List.map_cons, advance, advance, ih c.period]
    split <;> rfl

end Timeline

namespace Zone

def endOffset (current : Int) (cs : List Change) : Int :=
  (cs.getLast?.map (·.period.offset)).getD current

theorem endOffset_cons (current : Int) (c : Change) (cs : List Change) :
    endOffset current (c :: cs) = endOffset c.period.offset cs := by
  rw [endOffset, endOffset, List.getLast?_cons]
  cases cs.getLast? <;> rfl

section Records

variable {current wall : Int} {cs later : List Change}

/-- A reading that is on record has its offset, whatever follows. -/
theorem firstOffset_of_recorded {offset : Int} (found : recorded current wall cs = some offset)
    (later : List Change) : Timeline.firstOffset current wall (cs ++ later) = offset := by
  induction cs generalizing current with
  | nil => cases found
  | cons c rest ih =>
    rw [recorded] at found
    rw [List.cons_append, Timeline.firstOffset]
    split
    · rename_i reached
      rw [if_pos reached] at found
      exact ih found
    · rename_i before
      rw [if_neg before] at found
      exact Option.some.inj found

/-- After the record the offset is that of what follows. -/
theorem firstOffset_of_not_recorded (none_ : recorded current wall cs = none) (later : List Change) :
    Timeline.firstOffset current wall (cs ++ later)
      = Timeline.firstOffset (endOffset current cs) wall later := by
  induction cs generalizing current with
  | nil => rfl
  | cons c rest ih =>
    rw [recorded] at none_
    split at none_
    · rename_i reached
      rw [List.cons_append, Timeline.firstOffset, if_pos reached, ih none_, endOffset_cons]
    · cases none_

/-- A reading after the record has reached the later side of its last change. -/
theorem last_reached {c : Change} (none_ : recorded current wall (cs ++ [c]) = none) :
    c.second + max (endOffset current cs) c.period.offset ≤ wall := by
  induction cs generalizing current with
  | nil =>
    rw [List.nil_append, recorded] at none_
    split at none_
    · assumption
    · cases none_
  | cons d rest ih =>
    rw [List.cons_append, recorded] at none_
    split at none_
    · rw [endOffset_cons]
      exact ih none_
    · cases none_

/-- A reading that has reached all changes, by a bound on their offsets, is not on record. -/
theorem recorded_of_passed {top : Int} (below : current ≤ top)
    (passed : ∀ c ∈ cs, c.period.offset ≤ top ∧ c.second + top ≤ wall) : recorded current wall cs = none := by
  induction cs generalizing current with
  | nil => rfl
  | cons c rest ih =>
    obtain ⟨low, reached⟩ := passed c List.mem_cons_self
    rw [recorded, if_pos (by omega)]
    exact ih low fun d member => passed d (List.mem_cons_of_mem c member)

end Records

/-- Changes in order are those up to a second and those after it. -/
theorem filter_le_append_filter_lt {cs : List Change} (ordered : cs.Pairwise (·.second < ·.second))
    (last : Int) : cs.filter (·.second ≤ last) ++ cs.filter (last < ·.second) = cs := by
  induction ordered with
  | nil => rfl
  | cons above ordered ih =>
    rename_i c rest
    by_cases early : c.second ≤ last
    · rw [List.filter_cons_of_pos (by simpa using early), List.filter_cons_of_neg (by simpa using early),
        List.cons_append, ih]
    · have none_ : rest.filter (·.second ≤ last) = [] := by
        rw [List.filter_eq_nil_iff]
        intro d member
        have := above d member
        simp only [decide_eq_true_eq]
        omega
      have all : rest.filter (last < ·.second) = rest := by
        rw [none_, List.nil_append] at ih
        exact ih
      rw [List.filter_cons_of_neg (by simpa using early), List.filter_cons_of_pos (by simpa using early),
        none_, all, List.nil_append]

/-! ## Regular zones -/

/-- The year, by the average length of years, in which a second falls. -/
def averageYear (second : Int) : Nat := (second / 31556952).toNat

/-- A rule goes on from a record that ends with a change from a given offset: its changes up to that one
are passed and end with the same offset, and the later ones are more than two days away. -/
def Joins (r : YearlyRule) (before : Int) (last : Change) : Prop :=
  let around := (List.range' (averageYear last.second) 3).flatMap r.changes
  let done := around.filter (·.second ≤ last.second)
  (∀ c ∈ done, c.second + max r.standard.offset r.summer.offset
      ≤ last.second + max before last.period.offset) ∧
    done.getLast?.map (·.period.offset) = some last.period.offset ∧
    ∀ c ∈ around, last.second < c.second → last.second + 172800 < c.second

instance (r : YearlyRule) (before : Int) (last : Change) : Decidable (Joins r before last) :=
  inferInstanceAs (Decidable (_ ∧ _ ∧ _))

/-- A zone's rule is regular and goes on from its record, which reaches 32-bit seconds. -/
def Continued (z : Zone) : Prop :=
  ∀ r ∈ z.rule, r.Regular ∧
    ∃ last ∈ z.changes.getLast?, Joins r (endOffset z.first z.changes.dropLast) last ∧ earliest ≤ last.second

instance (z : Zone) : Decidable z.Continued :=
  inferInstanceAs (Decidable (∀ r ∈ z.rule, _))

/-- Offsets are usual, changes on record lie more than two days apart, in the years 1800 to 2099 and not
in the two days with which 32-bit seconds start, and the rule continues them. -/
structure Regular (z : Zone) : Prop where
  first : Usual z.first
  usual : ∀ c ∈ z.changes, Usual c.period.offset
  spaced : z.changes.Pairwise fun c d => c.second + 172800 < d.second
  inside : ∀ c ∈ z.changes, yearStart 1800 ≤ c.second ∧ c.second < yearStart 2100
  settled : ∀ c ∈ z.changes, earliest ≤ c.second → earliest + 172800 < c.second
  continued : z.Continued

/-- The record of a zone, followed by the changes of its rule in all years. -/
def history (z : Zone) : Timeline := ⟨⟨z.first, false⟩, z.changesThrough 9999⟩

/-- The years from that of a second up to a given one. -/
def yearsFrom (second : Int) (year : Nat) : List Nat :=
  List.range' (averageYear second) (year + 1 - averageYear second)

theorem changesThrough_of_none {z : Zone} (none_ : z.rule = none) (year : Nat) :
    z.changesThrough year = z.changes := by
  rw [changesThrough, none_]

theorem changesThrough_of_some {z : Zone} {r : YearlyRule} {last : Change} (rule : z.rule = some r)
    (ends : z.changes.getLast? = some last) (year : Nat) :
    z.changesThrough year = z.changes
      ++ ((yearsFrom last.second year).flatMap r.changes).filter (last.second < ·.second) := by
  rw [changesThrough, rule, ends]
  rfl

/-! ## Going on with a rule -/

theorem averageYear_bounds {second : Int} (since : yearStart 1800 ≤ second) (before : second < yearStart 2100) :
    1 ≤ averageYear second ∧ averageYear second < 2100
      ∧ yearStart (averageYear second) + 31000000 ≤ second
      ∧ second + 31000000 ≤ yearStart (averageYear second + 3) := by
  have low : yearStart 1800 = 56770934400 := rfl
  have high : yearStart 2100 = 66238041600 := rfl
  obtain ⟨y, year⟩ : ∃ y, averageYear second = y + 1 := ⟨averageYear second - 1, by unfold averageYear; omega⟩
  have here := (yearStart_average y).2
  have later := (yearStart_average (y + 3)).1
  rw [year]
  unfold averageYear at year
  refine ⟨by omega, by omega, by omega, ?_⟩
  rw [Nat.add_right_comm y 1 3]
  omega

section Rule

variable {r : YearlyRule} {last : Change} {before wall : Int} {year : Nat}

/-- The changes of all years are those around the last one on record and later ones. -/
theorem flatMap_yearsFrom (near : averageYear last.second < 2100) :
    (yearsFrom last.second 9999).flatMap r.changes
      = (List.range' (averageYear last.second) 3).flatMap r.changes
        ++ (List.range' (averageYear last.second + 3) (9997 - averageYear last.second)).flatMap r.changes := by
  have count : 9999 + 1 - averageYear last.second = 3 + (9997 - averageYear last.second) := by omega
  rw [yearsFrom, count, ← List.range'_append_1, List.flatMap_append]

/-- The changes behind those years lie almost a year behind the record. -/
theorem far_of_mem (regular : r.Regular) (since : yearStart 1800 ≤ last.second)
    (until_ : last.second < yearStart 2100) {count : Nat} {c : Change}
    (member : c ∈ (List.range' (averageYear last.second + 3) count).flatMap r.changes) :
    last.second + 31000000 < c.second := by
  obtain ⟨p, q, first, second, cycle⟩ := regular.cycle
  have far := (averageYear_bounds since until_).2.2.2
  have start := cycle.start_of_mem (by omega) member
  omega

/-- What a rule adds to a record lies more than two days behind it. -/
theorem Joins.later (joins : Joins r before last) (regular : r.Regular)
    (since : yearStart 1800 ≤ last.second) (until_ : last.second < yearStart 2100) {c : Change}
    (member : c ∈ ((yearsFrom last.second 9999).flatMap r.changes).filter (last.second < ·.second)) :
    last.second + 172800 < c.second := by
  obtain ⟨inYears, behind⟩ := List.mem_filter.mp member
  rw [flatMap_yearsFrom (averageYear_bounds since until_).2.1, List.mem_append] at inYears
  rcases inYears with near | far
  · exact joins.2.2 c near (of_decide_eq_true behind)
  · have := far_of_mem regular since until_ far
    omega

/-- After the record the offset is that of the rule. -/
theorem Joins.firstOffset_eq (joins : Joins r before last) (regular : r.Regular)
    (since : yearStart 1800 ≤ last.second) (until_ : last.second < yearStart 2100)
    (usual : Usual last.period.offset) (reached : last.second + max before last.period.offset ≤ wall)
    (final : year ≤ 9999) (low : yearStart year ≤ wall) (high : wall < yearStart (year + 1)) :
    Timeline.firstOffset last.period.offset wall
      (((yearsFrom last.second 9999).flatMap r.changes).filter (last.second < ·.second))
      = r.offset year wall := by
  obtain ⟨passed, sameEnd, -⟩ := joins
  obtain ⟨p, q, first, second, cycle⟩ := regular.cycle
  obtain ⟨positive, near, begun, -⟩ := averageYear_bounds since until_
  obtain ⟨belowP, belowQ⟩ := cycle.offset_le
  obtain ⟨lowest, -⟩ := usual
  -- The changes of the rule within the record are all passed, so that it does no harm to leave them out.
  have done : ((yearsFrom last.second 9999).flatMap r.changes).filter (·.second ≤ last.second)
      = ((List.range' (averageYear last.second) 3).flatMap r.changes).filter (·.second ≤ last.second) := by
    rw [flatMap_yearsFrom near, List.filter_append, List.append_right_eq_self, List.filter_eq_nil_iff]
    intro c member
    have far := far_of_mem regular since until_ member
    simp only [decide_eq_true_eq]
    omega
  have started : averageYear last.second ≤ year := by
    refine Nat.le_of_not_lt fun earlier => ?_
    have mono := yearStart_mono (Nat.le_add_left 1 year) (by omega : year + 1 ≤ averageYear last.second)
    omega
  have ordered : ((yearsFrom last.second 9999).flatMap r.changes).Pairwise (·.second < ·.second) :=
    (cycle.pairwise_years positive _).imp (by omega)
  have all : Timeline.firstOffset q.offset wall ((yearsFrom last.second 9999).flatMap r.changes)
      = r.offset year wall :=
    cycle.firstOffset_years positive started (by omega) low high
  rw [← filter_le_append_filter_lt ordered last.second, done,
    firstOffset_of_not_recorded (recorded_of_passed belowQ fun c member => ?_), endOffset, sameEnd] at all
  · exact all
  · have reachedC := passed c member
    rcases cycle.period_of_mem (List.mem_filter.mp member).1 with same | same <;> rw [same] <;> omega

end Rule

/-! ## One history -/

namespace Regular

variable {z : Zone}

/-- A rule goes on from the last change on record. -/
theorem rule_cases (regular : z.Regular) : z.rule = none ∨ ∃ r init last, z.rule = some r
    ∧ r.Regular ∧ z.changes = init ++ [last] ∧ Joins r (endOffset z.first init) last
    ∧ earliest ≤ last.second := by
  cases rule : z.rule with
  | none => exact .inl rfl
  | some r =>
    obtain ⟨regularRule, last, ends, joins, recent⟩ := regular.continued r rule
    obtain ⟨init, split⟩ := List.getLast?_eq_some_iff.mp ends
    rw [split, List.dropLast_concat] at joins
    exact .inr ⟨r, init, last, rfl, regularRule, split, joins, recent⟩

/-- The offset of a reading by record and rule is the one found by going through the history. -/
theorem exactOffset_eq (regular : z.Regular) (w : Wall) :
    z.exactOffset w = Timeline.firstOffset z.first w.seconds (z.changesThrough 9999) := by
  rcases regular.rule_cases with none_ | ⟨r, init, last, some_, regularRule, split, joins, -⟩
  · rw [changesThrough_of_none none_, ← List.append_nil z.changes, exactOffset]
    cases found : recorded z.first w.seconds z.changes with
    | some offset => rw [firstOffset_of_recorded found]
    | none =>
      rw [firstOffset_of_not_recorded found, none_, Timeline.firstOffset, endOffset, lastOffset]
      cases z.changes.getLast? <;> rfl
  · have ends : z.changes.getLast? = some last := by rw [split, List.getLast?_concat]
    have member : last ∈ z.changes := List.mem_of_getLast? ends
    rw [changesThrough_of_some some_ ends, exactOffset]
    cases found : recorded z.first w.seconds z.changes with
    | some offset => rw [firstOffset_of_recorded found]
    | none =>
      obtain ⟨since, until_⟩ := regular.inside last member
      obtain ⟨low, high⟩ := w.seconds_in_year
      have final := w.ticks.valid_fields.1.2.1
      have endsWith : endOffset z.first z.changes = last.period.offset := by rw [endOffset, ends]; rfl
      have reached := last_reached (split ▸ found)
      rw [firstOffset_of_not_recorded found, endsWith, some_]
      exact (joins.firstOffset_eq regularRule since until_ (regular.usual last member) reached final
        low high).symm

/-- A change of the history is on record, or is made by the rule more than two days after a change that is. -/
theorem history_cases (regular : z.Regular) {c : Change} (member : c ∈ z.history.changes) :
    c ∈ z.changes ∨ ∃ r : YearlyRule, r.Regular ∧ ∃ last ∈ z.changes, earliest ≤ last.second
      ∧ last.second + 172800 < c.second ∧ c ∈ (yearsFrom last.second 9999).flatMap r.changes := by
  rcases regular.rule_cases with none_ | ⟨r, init, last, some_, regularRule, split, joins, recent⟩
  · rw [history, changesThrough_of_none none_] at member
    exact .inl member
  · have ends : z.changes.getLast? = some last := by rw [split, List.getLast?_concat]
    have onRecord : last ∈ z.changes := List.mem_of_getLast? ends
    obtain ⟨since, until_⟩ := regular.inside last onRecord
    rw [history, changesThrough_of_some some_ ends] at member
    rcases List.mem_append.mp member with own | byRule
    · exact .inl own
    · exact .inr ⟨r, regularRule, last, onRecord, recent, joins.later regularRule since until_ byRule,
        (List.mem_filter.mp byRule).1⟩

theorem usual_history (regular : z.Regular) : ∀ c ∈ z.history.changes, Usual c.period.offset := by
  intro c member
  rcases regular.history_cases member with onRecord | ⟨r, regularRule, last, -, -, -, byRule⟩
  · exact regular.usual c onRecord
  · obtain ⟨p, q, first, second, cycle⟩ := regularRule.cycle
    rcases cycle.period_of_mem byRule with period | period <;> rw [period]
    · exact cycle.usual.1
    · exact cycle.usual.2

theorem spaced_history (regular : z.Regular) :
    z.history.changes.Pairwise fun c d => c.second + 172800 < d.second := by
  rcases regular.rule_cases with none_ | ⟨r, init, last, some_, regularRule, split, joins, -⟩
  · rw [history, changesThrough_of_none none_]
    exact regular.spaced
  · have ends : z.changes.getLast? = some last := by rw [split, List.getLast?_concat]
    obtain ⟨since, until_⟩ := regular.inside last (List.mem_of_getLast? ends)
    obtain ⟨positive, -, -, -⟩ := averageYear_bounds since until_
    obtain ⟨p, q, first, second, cycle⟩ := regularRule.cycle
    rw [history, changesThrough_of_some some_ ends]
    -- On record and by the rule alone changes are apart; between the two the last one on record decides.
    refine List.pairwise_append.mpr ⟨regular.spaced, (cycle.pairwise_years positive _).filter _, ?_⟩
    intro c onRecord d byRule
    have later := joins.later regularRule since until_ byRule
    have spaced := regular.spaced
    rw [split, List.mem_append, List.mem_singleton] at onRecord
    rw [split, List.pairwise_append] at spaced
    rcases onRecord with earlier | rfl
    · have := spaced.2.2 c earlier last List.mem_cons_self
      omega
    · exact later

theorem inside_history (regular : z.Regular) :
    ∀ c ∈ z.history.changes, 259200 ≤ c.second ∧ c.second + 259200 ≤ spanSeconds := by
  have low : yearStart 1800 = 56770934400 := rfl
  have high : yearStart 2100 = 66238041600 := rfl
  have total : yearStart 10000 = spanSeconds := rfl
  intro c member
  rcases regular.history_cases member with onRecord | ⟨r, regularRule, last, onRecord, -, later, byRule⟩
  · have inside := regular.inside c onRecord
    unfold spanSeconds
    omega
  · obtain ⟨since, until_⟩ := regular.inside last onRecord
    obtain ⟨positive, near, -, -⟩ := averageYear_bounds since until_
    obtain ⟨p, q, first, second, cycle⟩ := regularRule.cycle
    have before := cycle.end_of_mem positive byRule
    have years : averageYear last.second + (9999 + 1 - averageYear last.second) = 10000 := by omega
    rw [years, total] at before
    omega

/-- The history of a regular zone is steady. -/
theorem steady (regular : z.Regular) : z.history.Steady :=
  ⟨regular.first.moderate, fun c member => (regular.usual_history c member).moderate,
    regular.spaced_history, regular.inside_history⟩

/-- No change comes in the two days with which 32-bit seconds start. -/
theorem settled_history (regular : z.Regular) :
    ∀ c ∈ z.history.changes, earliest ≤ c.second → earliest + 172800 < c.second := by
  intro c member since
  rcases regular.history_cases member with onRecord | ⟨r, -, last, -, recent, later, -⟩
  · exact regular.settled c onRecord since
  · omega

/-- By record and rule a reading has the offset of its first showing. -/
theorem takesFirst (regular : z.Regular) (w : Wall) :
    z.history.TakesFirst w.seconds (z.exactOffset w) := by
  rw [regular.exactOffset_eq]
  exact regular.steady.takesFirst w.seconds

end Regular

end Zone

end FeedSieve.Time
