import FeedSieve.Time.Calendar

/-!
# Numbers of days and dates

`Date.ofNumber` gives an existing date, and `Date.number` leads back from it to the number
(`number_ofNumber`, `valid_ofNumber`). The days of a year are counted month by month, those before a year
by whole periods of 400, 100, 4 and 1 years.
-/
namespace FeedSieve.Time

/-- The number of days from the first of January of year 1 to the last day of year 9999. -/
def dayCount : Nat := 3652059

theorem isLeap_iff (year : Nat) :
    isLeap year = true ↔ year % 4 = 0 ∧ (year % 100 ≠ 0 ∨ year % 400 = 0) := by
  simp [isLeap]

theorem daysBeforeMonth_succ (year month : Nat) (h : 1 ≤ month) :
    daysBeforeMonth year (month + 1) = daysBeforeMonth year month + daysInMonth year month := by
  cases month with
  | zero => omega
  | succ m => rfl

/-- The days before a thirteenth month are those of the year. -/
theorem daysBeforeMonth_thirteen (year : Nat) :
    daysBeforeMonth year 13 = if isLeap year then 366 else 365 := by
  cases h : isLeap year <;> simp [daysBeforeMonth, daysInMonth, h]

theorem daysBeforeMonth_twelve (year : Nat) :
    daysBeforeMonth year 12 = if isLeap year then 335 else 334 := by
  cases h : isLeap year <;> simp [daysBeforeMonth, daysInMonth, h]

namespace Date

/-- Searching from a month on, within what its year still has, finds an existing day, and as many days
lie before it as were asked for. -/
theorem monthOf_spec (year : Nat) (steps month rest : Nat) (first : 1 ≤ month)
    (fits : daysBeforeMonth year month + rest < daysBeforeMonth year (month + steps + 1)) :
    month ≤ (monthOf year steps month rest).1 ∧
    (monthOf year steps month rest).1 ≤ month + steps ∧
    1 ≤ (monthOf year steps month rest).2 ∧
    (monthOf year steps month rest).2 ≤ daysInMonth year (monthOf year steps month rest).1 ∧
    daysBeforeMonth year (monthOf year steps month rest).1 + ((monthOf year steps month rest).2 - 1)
      = daysBeforeMonth year month + rest := by
  -- A month that is passed moves its days from the rest to the days before.
  induction steps generalizing month rest with
  | zero =>
    have step := daysBeforeMonth_succ year month first
    simp only [monthOf, Nat.add_zero] at fits ⊢
    omega
  | succ steps ih =>
    have step := daysBeforeMonth_succ year month first
    unfold monthOf
    split
    · rename_i inside
      dsimp only
      omega
    · rename_i beyond
      have moved : daysBeforeMonth year (month + 1) + (rest - daysInMonth year month)
          = daysBeforeMonth year month + rest := by omega
      have later := ih (month + 1) (rest - daysInMonth year month) (by omega) (by
        rw [moved, show month + 1 + steps + 1 = month + (steps + 1) + 1 by omega]
        exact fits)
      omega

/-- A day of a year that is at most its last one exists, and is found by its month. -/
theorem monthOf_january (year rest : Nat) (h : rest < 365) :
    1 ≤ (monthOf year 11 1 rest).1 ∧ (monthOf year 11 1 rest).1 ≤ 12 ∧
    1 ≤ (monthOf year 11 1 rest).2 ∧
    (monthOf year 11 1 rest).2 ≤ daysInMonth year (monthOf year 11 1 rest).1 ∧
    daysBeforeMonth year (monthOf year 11 1 rest).1 + ((monthOf year 11 1 rest).2 - 1) = rest := by
  have whole : rest < daysBeforeMonth year 13 := by
    rw [daysBeforeMonth_thirteen]
    split <;> omega
  have spec := monthOf_spec year 11 1 rest (by decide) (by simpa [daysBeforeMonth] using whole)
  simpa [daysBeforeMonth] using spec

/-- The quotients by the four periods, and the day of the year. -/
def periods (n : Nat) : Nat × Nat × Nat × Nat × Nat :=
  (n / 146097, n % 146097 / 36524, n % 146097 % 36524 / 1461,
    n % 146097 % 36524 % 1461 / 365, n % 146097 % 36524 % 1461 % 365)

theorem ofNumber_of_periods {n a b c d r : Nat} (h : periods n = (a, b, c, d, r)) :
    ofNumber n =
      if d = 4 ∨ b = 4 then ⟨a * 400 + b * 100 + c * 4 + d, 12, 31⟩
      else ⟨a * 400 + b * 100 + c * 4 + d + 1,
        (monthOf (a * 400 + b * 100 + c * 4 + d + 1) 11 1 r).1,
        (monthOf (a * 400 + b * 100 + c * 4 + d + 1) 11 1 r).2⟩ := by
  simp only [periods, Prod.mk.injEq] at h
  obtain ⟨rfl, rfl, rfl, rfl, rfl⟩ := h
  rfl

/-- A quotient is 4 only on the last day of its period, where the later ones are as great as they can be
or 0. -/
theorem exists_periods (n : Nat) : ∃ a b c d r,
    n = a * 146097 + b * 36524 + c * 1461 + d * 365 + r ∧
    (b < 4 ∨ b = 4 ∧ c = 0 ∧ d = 0 ∧ r = 0) ∧ c < 25 ∧
    (d < 4 ∨ d = 4 ∧ c < 24 ∧ r = 0) ∧ r < 365 ∧ periods n = (a, b, c, d, r) := by
  refine ⟨_, _, _, _, _, ?_, ?_, ?_, ?_, ?_, rfl⟩ <;> omega

/-- The date of a number exists and has this number. -/
theorem ofNumber_spec (n : Nat) :
    (ofNumber n).number = n ∧ 1 ≤ (ofNumber n).year ∧ 1 ≤ (ofNumber n).month ∧
    (ofNumber n).month ≤ 12 ∧ 1 ≤ (ofNumber n).day ∧
    (ofNumber n).day ≤ daysInMonth (ofNumber n).year (ofNumber n).month ∧
    (n < dayCount → (ofNumber n).year ≤ 9999) := by
  obtain ⟨a, b, c, d, r, hn, hb, hc, hd, hr, digits⟩ := exists_periods n
  rw [ofNumber_of_periods digits]
  unfold dayCount
  -- The 366th day of a leap year fills its periods, but does not belong to the next year.
  split
  · rename_i last
    have leap : isLeap (a * 400 + b * 100 + c * 4 + d) = true := by
      rw [isLeap_iff]
      omega
    have before : daysBeforeMonth (a * 400 + b * 100 + c * 4 + d) 12 = 335 := by
      rw [daysBeforeMonth_twelve, leap]
      rfl
    simp only [number, before, daysBeforeYear]
    refine ⟨by omega, by omega, by decide, by decide, by decide, by simp [daysInMonth], by omega⟩
  · rename_i inside
    have spec := monthOf_january (a * 400 + b * 100 + c * 4 + d + 1) r (by omega)
    dsimp only
    refine ⟨?_, by omega, spec.1, spec.2.1, spec.2.2.1, spec.2.2.2.1, by omega⟩
    simp only [number, daysBeforeYear]
    omega

theorem number_ofNumber (n : Nat) : (ofNumber n).number = n := (ofNumber_spec n).1

theorem valid_ofNumber {n : Nat} (h : n < dayCount) : (ofNumber n).Valid := by
  obtain ⟨-, year, month, december, day, within, last⟩ := ofNumber_spec n
  exact ⟨year, last h, month, december, day, within⟩

end Date

end FeedSieve.Time
