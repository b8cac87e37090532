import FeedSieve.Proofs.Time.Calendar
import FeedSieve.Proofs.Time.Instant

/-!
# Days and seconds of a year

A year begins `yearStart` seconds behind the start of year 1. Its days lie before the next year
(`Date.number_in_year`, `Wall.seconds_in_year`), and the bounds here say how far from the turn of the year
the days of its inner months are.
-/
namespace FeedSieve.Time

/-! ## Years -/

def yearStart (year : Nat) : Int := daysBeforeYear year * 86400

/-- The days before the next year are those before this one and those of all its months. -/
theorem daysBeforeYear_succ {year : Nat} (first : 1 ≤ year) :
    daysBeforeYear (year + 1) = daysBeforeYear year + daysBeforeMonth year 13 := by
  obtain ⟨y, rfl⟩ := Nat.exists_eq_add_of_le' first
  have here : daysBeforeYear (y + 1) = y * 365 + y / 4 - y / 100 + y / 400 := rfl
  have next : daysBeforeYear (y + 1 + 1)
      = (y + 1) * 365 + (y + 1) / 4 - (y + 1) / 100 + (y + 1) / 400 := rfl
  rw [daysBeforeMonth_thirteen, next, here]
  simp only [isLeap_iff]
  split <;> omega

theorem yearStart_succ {year : Nat} (first : 1 ≤ year) :
    yearStart year + 31536000 ≤ yearStart (year + 1) := by
  have days := daysBeforeYear_succ first
  have months := daysBeforeMonth_thirteen year
  unfold yearStart
  split at months <;> omega

theorem yearStart_mono {year later : Nat} (first : 1 ≤ year) (le : year ≤ later) :
    yearStart year ≤ yearStart later := by
  induction le with
  | refl => exact Int.le_refl _
  | step le ih =>
    have step := yearStart_succ (Nat.le_trans first le)
    rw [Nat.succ_eq_add_one]
    omega

/-- Years are 31556952 seconds long on average, and begin at most two days from where that puts them. -/
theorem yearStart_average (y : Nat) :
    (y : Int) * 31556952 - 172800 ≤ yearStart (y + 1) ∧ yearStart (y + 1) ≤ y * 31556952 + 172800 := by
  have days : daysBeforeYear (y + 1) = y * 365 + y / 4 - y / 100 + y / 400 := rfl
  rw [yearStart, days]
  omega

/-! ## Months -/

theorem daysInMonth_bounds (year month : Nat) :
    28 ≤ daysInMonth year month ∧ daysInMonth year month ≤ 31 := by
  unfold daysInMonth
  split
  · split <;> omega
  · split <;> omega

theorem daysBeforeMonth_mono (year : Nat) {month later : Nat} (first : 1 ≤ month) (le : month ≤ later) :
    daysBeforeMonth year month ≤ daysBeforeMonth year later := by
  induction le with
  | refl => exact Nat.le_refl _
  | step le ih =>
    rw [daysBeforeMonth_succ year _ (Nat.le_trans first le)]
    omega

theorem daysBeforeMonth_three (year : Nat) : 59 ≤ daysBeforeMonth year 3 := by
  have two : daysBeforeMonth year 2 = 31 := rfl
  have three : daysBeforeMonth year 3 = daysBeforeMonth year 2 + daysInMonth year 2 :=
    daysBeforeMonth_succ year 2 (by decide)
  have february := (daysInMonth_bounds year 2).1
  omega

/-- The days from March to November lie 59 days behind the start of the year and 30 before its end. -/
theorem daysBeforeMonth_bounds (year : Nat) {month : Nat} (march : 3 ≤ month) (november : month ≤ 11) :
    59 ≤ daysBeforeMonth year month ∧ daysBeforeMonth year month + daysInMonth year month ≤ 335 := by
  have first := daysBeforeMonth_three year
  have low := daysBeforeMonth_mono year (by decide) march
  have high := daysBeforeMonth_mono year (by omega : 1 ≤ month + 1) (by omega : month + 1 ≤ 12)
  have december := daysBeforeMonth_twelve year
  have step := daysBeforeMonth_succ year month (by omega)
  split at december <;> omega

theorem nthWeekday_bounds (year month : Nat) {week : Nat} (first : 1 ≤ week) (fifth : week ≤ 5)
    (weekday : Nat) :
    daysBeforeYear year + daysBeforeMonth year month ≤ Date.nthWeekday year month week weekday ∧
    Date.nthWeekday year month week weekday
      < daysBeforeYear year + daysBeforeMonth year month + daysInMonth year month := by
  have days := daysInMonth_bounds year month
  unfold Date.nthWeekday Date.number
  dsimp only
  split <;> omega

/-! ## Days and readings -/

/-- A date lies within its year. -/
theorem Date.number_in_year (d : Date) (valid : d.Valid) :
    daysBeforeYear d.year ≤ d.number ∧ d.number < daysBeforeYear (d.year + 1) := by
  obtain ⟨first, -, january, december, day, within⟩ := valid
  have next := daysBeforeYear_succ first
  have month := daysBeforeMonth_succ d.year d.month january
  have rest := daysBeforeMonth_mono d.year (by omega : 1 ≤ d.month + 1) (by omega : d.month + 1 ≤ 13)
  unfold number
  omega

/-- A date has a midnight, as many days behind the start of year 1 as its number says. -/
theorem Date.exists_midnight (d : Date) (valid : d.Valid) :
    ∃ w, d.midnight? = some w ∧ w.ticks.val = d.number * Time.day := by
  have inYear := d.number_in_year valid
  have last : d.year ≤ 9999 := valid.2.1
  have next : daysBeforeYear (d.year + 1) = d.year * 365 + d.year / 4 - d.year / 100 + d.year / 400 := rfl
  have count : Fields.count ⟨d, 0, 0, 0, 0⟩ = d.number * Time.day := by simp [Fields.count]
  have named : Fields.Valid ⟨d, 0, 0, 0, 0⟩ :=
    ⟨valid, Nat.zero_lt_succ _, Nat.zero_lt_succ _, Nat.zero_lt_succ _, Nat.zero_lt_succ _⟩
  have bound : Fields.count ⟨d, 0, 0, 0, 0⟩ < span := by
    rw [count, span, Time.day, Time.second]
    omega
  refine ⟨⟨⟨_, bound⟩⟩, ?_, count⟩
  rw [midnight?, Fields.wall?, if_pos named, dif_pos bound]

/-- A reading lies within its year. -/
theorem Wall.seconds_in_year (w : Wall) :
    yearStart w.ticks.fields.date.year ≤ w.seconds
      ∧ w.seconds < yearStart (w.ticks.fields.date.year + 1) := by
  have inYear := w.ticks.fields.date.number_in_year w.ticks.valid_fields.1
  have number : w.ticks.fields.date.number = w.ticks.val / day := Date.number_ofNumber _
  have length : day = 86400 * 1000000 := rfl
  rw [number, length] at inYear
  rw [Wall.seconds, Time.second]
  unfold yearStart
  omega

end FeedSieve.Time
