import FeedSieve.Time.Calendar

/-!
# Instants and wall-clock readings

Both are counts of microseconds from the start of year 1 up to the end of year 9999. An instant is on the
clock of UTC; a reading is what some wall clock shows. Moving either outside that range is impossible and
gives `none`.
-/
namespace FeedSieve.Time

def second : Nat := 1000000

def day : Nat := 86400 * second

/-- The microseconds of the years 1 to 9999. -/
def span : Nat := 3652059 * day

/-- A count of microseconds within the years 1 to 9999. -/
abbrev Ticks := Fin span

/-- Moves a count by signed microseconds, if the result stays in range. -/
def Ticks.shift? (t : Ticks) (delta : Int) : Option Ticks :=
  let n := (t.val : Int) + delta
  if h : 0 ≤ n ∧ n < span then some ⟨n.toNat, by omega⟩ else none

/-- The number of the day and the microsecond of the day. -/
def Ticks.split (t : Ticks) : Nat × Nat := (t.val / day, t.val % day)

/-- A reading of a wall clock. -/
structure Wall where
  ticks : Ticks
  deriving DecidableEq, Repr

/-- A point in time, on the clock of UTC. -/
structure Instant where
  ticks : Ticks
  deriving DecidableEq, Repr

structure Fields where
  date : Date
  hour : Nat
  minute : Nat
  second : Nat
  microsecond : Nat := 0
  deriving DecidableEq, Repr

def Fields.Valid (f : Fields) : Prop :=
  f.date.Valid ∧ f.hour < 24 ∧ f.minute < 60 ∧ f.second < 60 ∧ f.microsecond < 1000000

instance (f : Fields) : Decidable f.Valid := by unfold Fields.Valid; infer_instance

def Fields.count (f : Fields) : Nat :=
  f.date.number * day + (f.hour * 3600 + f.minute * 60 + f.second) * Time.second + f.microsecond

def Fields.wall? (f : Fields) : Option Wall :=
  if f.Valid then (if h : f.count < span then some ⟨⟨f.count, h⟩⟩ else none) else none

def Ticks.fields (t : Ticks) : Fields :=
  let (days, rest) := t.split
  let seconds := rest / Time.second
  ⟨Date.ofNumber days, seconds / 3600, seconds / 60 % 60, seconds % 60, rest % Time.second⟩

/-- The reading at the start of a date. -/
def Date.midnight? (d : Date) : Option Wall := Fields.wall? ⟨d, 0, 0, 0, 0⟩

/-- The whole seconds of a reading since the start of year 1. -/
def Wall.seconds (w : Wall) : Nat := w.ticks.val / Time.second

/-- The whole seconds of an instant since the start of year 1. -/
def Instant.seconds (t : Instant) : Nat := t.ticks.val / Time.second

/-- The instant at which a clock that is ahead of UTC by `offset` seconds shows the reading. -/
def Wall.toInstant? (w : Wall) (offset : Int) : Option Instant :=
  (w.ticks.shift? (-(offset * Time.second))).map Instant.mk

/-- What a clock that is ahead of UTC by `offset` seconds shows at an instant. -/
def Instant.toWall? (t : Instant) (offset : Int) : Option Wall :=
  (t.ticks.shift? (offset * Time.second)).map Wall.mk

def Instant.add? (t : Instant) (seconds : Int) : Option Instant :=
  (t.ticks.shift? (seconds * Time.second)).map Instant.mk

/-- The instant with its fraction of a second dropped. -/
def Instant.wholeSecond (t : Instant) : Instant :=
  ⟨⟨t.ticks.val - t.ticks.val % Time.second, Nat.lt_of_le_of_lt (Nat.sub_le ..) t.ticks.isLt⟩⟩

/-! ## Texts -/

/-- A number with at least the given count of digits. -/
def padded (width n : Nat) : String :=
  let digits := toString n
  String.ofList (List.replicate (width - digits.length) '0') ++ digits

/-- The time of day as `hh:mm:ss`. -/
def Fields.clock (f : Fields) : String :=
  padded 2 f.hour ++ ":" ++ padded 2 f.minute ++ ":" ++ padded 2 f.second

def Date.iso (d : Date) : String :=
  padded 4 d.year ++ "-" ++ padded 2 d.month ++ "-" ++ padded 2 d.day

/-- The timestamp of an instant, to the second. The year has no leading zeros. -/
def Instant.timestamp (t : Instant) : String :=
  let f := t.ticks.fields
  toString f.date.year ++ "-" ++ padded 2 f.date.month ++ "-" ++ padded 2 f.date.day ++ "T"
    ++ f.clock ++ "Z"

/-- The fraction of a second, if there is one, as a point and six digits. -/
def Fields.fraction (f : Fields) : String :=
  if f.microsecond = 0 then "" else "." ++ padded 6 f.microsecond

/-- The long form of an instant, as messages show it. -/
def Instant.long (t : Instant) : String :=
  let f := t.ticks.fields
  f.date.iso ++ " " ++ f.clock ++ f.fraction ++ "+00:00"

/-- The basic form of an instant: fields without separators, to the second. -/
def Instant.basic (t : Instant) : String :=
  let f := t.ticks.fields
  padded 4 f.date.year ++ padded 2 f.date.month ++ padded 2 f.date.day ++ "T" ++ padded 2 f.hour
    ++ padded 2 f.minute ++ padded 2 f.second ++ "Z"

end FeedSieve.Time
