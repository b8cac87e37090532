import FeedSieve.ICalendar.Datum
import FeedSieve.Proofs.Time.Year
import Mathlib.Data.List.TakeWhile

/-!
# Instants and readings read back

The basic form of an instant is read as that instant, without its fraction of a second, on the clock of
UTC (`readDatum_basic`). Without its `Z` it is a reading, which is read on the clock of a known zone
(`readDatum_basicWall`).
-/
namespace FeedSieve.ICalendar

open Time

/-- A run of plain digits at some place of a text is read as the number it stands for. -/
theorem natAt?_of_slice {s digits : List Char} {start count : Nat}
    (here : slice s start count = digits) (plain : Text.Number.Plain digits) (nonempty : digits ≠ [])
    (short : digits.length ≤ Text.Number.digitLimit) :
    natAt? s start count = some (Nat.ofDigitChars 10 digits 0) := by
  rw [natAt?, here, Text.Number.int?_of_plain plain nonempty short]

/-- A number of fixed width is read at the place where it stands. -/
theorem natAt?_padded {s digits : List Char} {start width n : Nat}
    (written : (padded width n).toList = digits) (nonempty : digits ≠ [])
    (short : digits.length ≤ Text.Number.digitLimit) (here : slice s start width = digits) :
    natAt? s start width = some n := by
  have plain := plain_padded width n
  rw [written] at plain
  rw [natAt?_of_slice here plain nonempty short, ← written, ofDigitChars_padded]

/-! ## The characters of a basic form -/

theorem padded_pair {n : Nat} (h : n < 100) : ∃ a b, (padded 2 n).toList = [a, b] := by
  have length := length_padded (length_pair h)
  match same : (padded 2 n).toList with
  | [a, b] => exact ⟨a, b, rfl⟩
  | [] | [_] | _ :: _ :: _ :: _ => simp [same] at length

theorem padded_four {n : Nat} (h : n < 10000) : ∃ a b c d, (padded 4 n).toList = [a, b, c, d] := by
  have fits := (Nat.length_toDigits_le_iff (by decide : 1 < 10) (by decide : 0 < 4)).mpr h
  have length := length_padded fits
  match same : (padded 4 n).toList with
  | [a, b, c, d] => exact ⟨a, b, c, d, rfl⟩
  | [] | [_] | [_, _] | [_, _, _] | _ :: _ :: _ :: _ :: _ :: _ => simp [same] at length

/-- The basic form of a reading: that of an instant without the `Z` of UTC. -/
def basicWall (w : Wall) : List Char :=
  (padded 4 w.ticks.fields.date.year).toList
    ++ ((padded 2 w.ticks.fields.date.month).toList ++ ((padded 2 w.ticks.fields.date.day).toList
    ++ 'T' :: ((padded 2 w.ticks.fields.hour).toList ++ ((padded 2 w.ticks.fields.minute).toList
    ++ (padded 2 w.ticks.fields.second).toList))))

theorem toList_basic (t : Instant) : t.basic.toList = basicWall ⟨t.ticks⟩ ++ ['Z'] := by
  simp [Instant.basic, basicWall]

theorem mem_basicWall {w : Wall} {c : Char} (h : c ∈ basicWall w) : c.isDigit = true ∨ c = 'T' := by
  rw [basicWall] at h
  simp only [List.mem_append, List.mem_cons] at h
  rcases h with year | month | day | time | hour | minute | second
  · exact .inl (plain_padded _ _ c year)
  · exact .inl (plain_padded _ _ c month)
  · exact .inl (plain_padded _ _ c day)
  · exact .inr time
  · exact .inl (plain_padded _ _ c hour)
  · exact .inl (plain_padded _ _ c minute)
  · exact .inl (plain_padded _ _ c second)

theorem not_mem_basicWall {c : Char} (digit : c.isDigit = false) (time : c ≠ 'T') (w : Wall) :
    c ∉ basicWall w := by
  intro member
  rcases mem_basicWall member with here | here
  · rw [digit] at here
    cases here
  · exact time here

theorem mem_basic {t : Instant} {c : Char} (h : c ∈ t.basic.toList) :
    c.isDigit = true ∨ c = 'T' ∨ c = 'Z' := by
  rw [toList_basic, List.mem_append, List.mem_singleton] at h
  rcases h with shown | zone
  · exact (mem_basicWall shown).imp_right .inl
  · exact .inr (.inr zone)

/-- No other character stands in a basic form. -/
theorem not_mem_basic {c : Char} (digit : c.isDigit = false) (time : c ≠ 'T') (zone : c ≠ 'Z')
    (t : Instant) : c ∉ t.basic.toList := by
  intro member
  rcases mem_basic member with here | here | here
  · rw [digit] at here
    cases here
  · exact time here
  · exact zone here

theorem afterLast_of_not_mem {mark : Char} {s : List Char} (h : mark ∉ s) : afterLast mark s = s := by
  have whole : s.reverse.takeWhile (· ≠ mark) = s.reverse := by
    apply List.takeWhile_eq_self_iff.mpr
    intro c member
    rw [List.mem_reverse] at member
    rw [decide_eq_true_eq]
    rintro rfl
    exact h member
  rw [afterLast, whole, List.reverse_reverse]

/-! ## Reading -/

/-- The six numbers of a basic form, where they are read, and the letter between them. -/
theorem readWall?_basicWall (w : Wall) (rest : List Char) :
    (basicWall w).length = 15 ∧ readWall? (basicWall w ++ rest) = some ⟨w.ticks.whole⟩ := by
  obtain ⟨⟨-, lastYear, -, lastMonth, -, lastDay⟩, hour, minute, second, -⟩ := w.ticks.valid_fields
  have days := (daysInMonth_bounds w.ticks.fields.date.year w.ticks.fields.date.month).2
  have whole := wall?_fields w.ticks
  unfold basicWall
  generalize w.ticks.fields = f at *
  obtain ⟨y₁, y₂, y₃, y₄, year⟩ := padded_four (n := f.date.year) (by omega)
  obtain ⟨m₁, m₂, month⟩ := padded_pair (n := f.date.month) (by omega)
  obtain ⟨d₁, d₂, day⟩ := padded_pair (n := f.date.day) (by omega)
  obtain ⟨h₁, h₂, hours⟩ := padded_pair (n := f.hour) (by omega)
  obtain ⟨i₁, i₂, minutes⟩ := padded_pair (n := f.minute) (by omega)
  obtain ⟨s₁, s₂, seconds⟩ := padded_pair (n := f.second) (by omega)
  have two : 2 ≤ Text.Number.digitLimit := by decide
  have four : 4 ≤ Text.Number.digitLimit := by decide
  rw [year, month, day, hours, minutes, seconds]
  simp only [List.cons_append, List.nil_append]
  refine ⟨rfl, ?_⟩
  unfold readWall?
  rw [natAt?_padded year (by simp) four rfl, natAt?_padded month (by simp) two rfl,
    natAt?_padded day (by simp) two rfl, natAt?_padded hours (by simp) two rfl,
    natAt?_padded minutes (by simp) two rfl, natAt?_padded seconds (by simp) two rfl]
  exact whole

theorem readWall?_basic (t : Instant) :
    t.basic.toList.length = 16 ∧ t.basic.toList[15]? = some 'Z' ∧
      readWall? t.basic.toList = some ⟨t.ticks.whole⟩ := by
  obtain ⟨length, wall⟩ := readWall?_basicWall ⟨t.ticks⟩ ['Z']
  rw [toList_basic]
  refine ⟨by rw [List.length_append, length]; rfl, ?_, wall⟩
  rw [List.getElem?_append_right (by omega), length]
  rfl

theorem readDateTime_basic (t : Instant) :
    readDateTime .unset t.basic.toList = .ok (.anchored ⟨t.ticks.whole⟩ 0) := by
  obtain ⟨length, zone, wall⟩ := readWall?_basic t
  have noColon := not_mem_basic (c := ':') (by decide) (by decide) (by decide) t
  have long : ¬ t.basic.toList.length ≤ 15 := by omega
  rw [readDateTime, afterLast_of_not_mem noColon]
  simp only [wall, zone, if_neg long, if_true]
  rfl

theorem startsDuration_of_isDigit {c : Char} (digit : c.isDigit = true) (rest : List Char) :
    startsDuration (c :: rest) = false := by
  have plain : c ≠ 'P' ∧ c ≠ 'p' := by
    constructor <;> rintro rfl <;> revert digit <;> decide
  simp [startsDuration, Text.Number.splitSign_of_isDigit digit, plain]

theorem startsDuration_basicWall (w : Wall) (rest : List Char) :
    startsDuration (basicWall w ++ rest) = false := by
  have length := (readWall?_basicWall w []).1
  cases same : basicWall w with
  | nil => simp [same] at length
  | cons c more =>
    have member : c ∈ basicWall w := by
      rw [same]
      exact List.mem_cons_self
    rcases mem_basicWall member with digit | rfl
    · exact startsDuration_of_isDigit digit _
    · rfl

theorem startsDuration_basic (t : Instant) : startsDuration t.basic.toList = false := by
  rw [toList_basic]
  exact startsDuration_basicWall ⟨t.ticks⟩ ['Z']

/-- The basic form of an instant is read as that instant, to the second. -/
theorem readDatum_basic (t : Instant) :
    readDatum .unset t.basic.toList = .ok (.moment (.anchored ⟨t.ticks.whole⟩ 0)) := by
  have noSlash := not_mem_basic (c := '/') (by decide) (by decide) (by decide) t
  have length := (readWall?_basic t).1
  rw [readDatum, if_neg (fun h => noSlash h.2), readSimple, startsDuration_basic, if_neg (by simp),
    if_pos (.inr length), readDateTime_basic]
  rfl

/-- In a known zone the basic form of a reading is read as that reading, on the clock of the zone. -/
theorem readDatum_basicWall {w : Wall} (whole : w.ticks.IsWhole) (clock : Clock) :
    readDatum (.within clock) (basicWall w) = .ok (.moment (clock.moment w)) := by
  have noSlash := not_mem_basicWall (c := '/') (by decide) (by decide) w
  have noColon := not_mem_basicWall (c := ':') (by decide) (by decide) w
  have starts := startsDuration_basicWall w []
  obtain ⟨length, wall⟩ := readWall?_basicWall w []
  rw [List.append_nil] at starts
  rw [List.append_nil, Ticks.whole_of_isWhole whole] at wall
  rw [readDatum, if_neg (fun h => noSlash h.2), readSimple, starts, if_neg (by simp),
    if_pos (.inl length), readDateTime, afterLast_of_not_mem noColon]
  simp only [wall]
  rfl

/-- Eight digits that are a date are read as a date. -/
theorem readDatum_of_day {s : List Char} {d : Date} (day : readDay? s = some d) (setting : Setting) :
    readDatum setting s = (readDate setting s).map .moment := by
  rw [readDay?] at day
  split at day
  · rename_i digits
    obtain ⟨length, digits⟩ := digits
    have noSlash : '/' ∉ s := fun member => by
      have digit := List.all_eq_true.mp digits _ member
      revert digit
      decide
    have starts : startsDuration s = false := by
      cases s with
      | nil => simp at length
      | cons c rest => exact startsDuration_of_isDigit (List.all_eq_true.mp digits c List.mem_cons_self) rest
    rw [readDatum, if_neg (fun h => noSlash h.2), readSimple, starts, if_neg (by simp), if_neg (by omega),
      if_pos length]
  · cases day

end FeedSieve.ICalendar
