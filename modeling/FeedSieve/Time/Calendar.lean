/-!
# The civil calendar

Dates of the Gregorian calendar, reckoned backwards and forwards without a break, and the number of each
day: 0 for the first day of year 1. `Date.ofDay` and `Date.day` are the two directions.
-/
namespace FeedSieve.Time

def isLeap (year : Nat) : Bool := year % 4 == 0 && (year % 100 != 0 || year % 400 == 0)

def daysInMonth (year month : Nat) : Nat :=
  if month = 2 then (if isLeap year then 29 else 28)
  else if month = 4 ∨ month = 6 ∨ month = 9 ∨ month = 11 then 30
  else 31

/-- The days before the first of January of a year that is at least 1. -/
def daysBeforeYear (year : Nat) : Nat :=
  let y := year - 1
  y * 365 + y / 4 - y / 100 + y / 400

def daysBeforeMonth (year : Nat) : (month : Nat) → Nat
  | 0 => 0
  | 1 => 0
  | month + 2 => daysBeforeMonth year (month + 1) + daysInMonth year (month + 1)

/-- A date of the civil calendar. -/
structure Date where
  year : Nat
  month : Nat
  day : Nat
  deriving DecidableEq, Repr, Inhabited

namespace Date

/-- Whether the date exists, in the years 1 to 9999. -/
def Valid (d : Date) : Prop :=
  1 ≤ d.year ∧ d.year ≤ 9999 ∧ 1 ≤ d.month ∧ d.month ≤ 12 ∧ 1 ≤ d.day ∧
    d.day ≤ daysInMonth d.year d.month

instance (d : Date) : Decidable d.Valid := by unfold Valid; infer_instance

def number (d : Date) : Nat := daysBeforeYear d.year + daysBeforeMonth d.year d.month + (d.day - 1)

/-- The month a day of the year falls in, searched from `month` on, and the day of that month. -/
def monthOf (year : Nat) : (steps month rest : Nat) → Nat × Nat
  | 0, month, rest => (month, rest + 1)
  | steps + 1, month, rest =>
    if rest < daysInMonth year month then (month, rest + 1)
    else monthOf year steps (month + 1) (rest - daysInMonth year month)

/-- The date of a day: whole periods of 400, 100, 4 and 1 years are taken off in turn. -/
def ofNumber (n : Nat) : Date :=
  let q400 := n / 146097
  let n := n % 146097
  let q100 := n / 36524
  let r100 := n % 36524
  let q4 := r100 / 1461
  let r4 := r100 % 1461
  let q1 := r4 / 365
  let r1 := r4 % 365
  let year := q400 * 400 + q100 * 100 + q4 * 4 + q1
  -- A quotient of 4 is the 366th day of a leap year, not a year more.
  if q1 = 4 ∨ q100 = 4 then ⟨year, 12, 31⟩
  else
    let (month, day) := monthOf (year + 1) 11 1 r1
    ⟨year + 1, month, day⟩

/-- The number of the day that is the `week`-th given weekday of a month, where Sunday is 0; the fifth may be
the last. -/
def nthWeekday (year month week weekday : Nat) : Nat :=
  let first := Date.number ⟨year, month, 1⟩
  let skip := (weekday + 7 - (first + 1) % 7) % 7
  let day := skip + 7 * (week - 1)
  first + (if day < daysInMonth year month then day else day - 7)

end Date

end FeedSieve.Time
