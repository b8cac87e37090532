import FeedSieve.Time.Timeline

/-!
# Zones

A zone is a first offset, the changes that are on record, and perhaps a yearly rule that goes on after
them. It is read in two ways. `Zone.exactOffset` uses all of it to the second; a reading shown twice is the
first of the two. `Zone.timeline` keeps what fits 32-bit seconds around 1970, up to 2037, in whole minutes,
and knows no rule after that.
-/
namespace FeedSieve.Time

/-- A day and time of the year: the `week`-th given weekday of a month, and seconds into that day on the
wall clock, which may be negative or exceed a day. -/
structure YearDay where
  month : Nat
  week : Nat
  weekday : Nat
  seconds : Int
  deriving DecidableEq, Repr, Inhabited

/-- The second of a year day on the wall clock, from the start of year 1. -/
def YearDay.second (d : YearDay) (year : Nat) : Int :=
  (Date.nthWeekday year d.month d.week d.weekday : Int) * 86400 + d.seconds

/-- A rule with two periods a year. The second period starts by the clock of the first and ends by its
own clock. -/
structure YearlyRule where
  standard : Period
  summer : Period
  starts : YearDay
  ends : YearDay
  deriving DecidableEq, Repr, Inhabited

/-- The two changes a rule makes in a year, in order. -/
def YearlyRule.changes (r : YearlyRule) (year : Nat) : List Change :=
  let up : Change := ⟨r.starts.second year - r.standard.offset, r.summer⟩
  let down : Change := ⟨r.ends.second year - r.summer.offset, r.standard⟩
  if up.second ≤ down.second then [up, down] else [down, up]

/-- The offset a rule gives a reading, in seconds of the wall clock within a year. A skipped reading keeps
the offset before the gap, a repeated one is the first of the two. -/
def YearlyRule.offset (r : YearlyRule) (year : Nat) (wall : Int) : Int :=
  let gain := r.summer.offset - r.standard.offset
  let starts := r.starts.second year + (if 0 ≤ gain then gain else 0)
  let ends := r.ends.second year - (if 0 ≤ gain then 0 else gain)
  let summer := if starts < ends then decide (starts ≤ wall ∧ wall < ends)
    else decide ¬ (ends ≤ wall ∧ wall < starts)
  if summer then r.summer.offset else r.standard.offset

structure Zone where
  first : Int
  changes : List Change
  rule : Option YearlyRule
  deriving DecidableEq, Repr, Inhabited

namespace Zone

/-- The zone that is always the same number of seconds ahead of UTC. -/
def fixedAt (offset : Int) : Zone := ⟨offset, [], none⟩

/-- The offset in force for a reading after the changes whose later side it has reached, or `none` after
all of them. -/
def recorded (current wall : Int) : List Change → Option Int
  | [] => none
  | c :: rest =>
    if c.second + max current c.period.offset ≤ wall then recorded c.period.offset wall rest
    else some current

def lastOffset (z : Zone) : Int :=
  match z.changes.getLast? with
  | some c => c.period.offset
  | none => z.first

/-- The offset of a reading by the whole record and the rule after it. -/
def exactOffset (z : Zone) (w : Wall) : Int :=
  match recorded z.first w.seconds z.changes with
  | some offset => offset
  | none =>
    match z.rule with
    | some r => r.offset w.ticks.fields.date.year w.seconds
    | none => z.lastOffset

/-- The second of year 1 at which 32-bit seconds start, in December 1901. -/
def earliest : Int := 62135596800 - 2147483648

/-- The second of year 1 at which 32-bit seconds end, in January 2038. -/
def latest : Int := 62135596800 + 2147483647

/-- The changes on record, followed by those of the rule up to a year. -/
def changesThrough (z : Zone) (year : Nat) : List Change :=
  match z.rule with
  | none => z.changes
  | some r =>
    let last := (z.changes.getLast?.map Change.second).getD 0
    -- By mean years the record ends in this year or a little later. What it holds is not repeated.
    let from_ := (last / 31556952).toNat
    z.changes ++
      ((List.range' from_ (year + 1 - from_)).flatMap r.changes).filter (last < ·.second)

/-- A period in whole minutes, half a minute rounded up. -/
def wholeMinutes (p : Period) : Period := ⟨Int.fdiv (p.offset + 30) 60 * 60, p.shifted⟩

/-- The changes that fit 32-bit seconds. Earlier ones are gathered in one change at the start. -/
def fitting (changes : List Change) : List Change :=
  let early := changes.takeWhile (·.second < earliest)
  let fit := (changes.dropWhile (·.second < earliest)).takeWhile (·.second ≤ latest)
  match early.getLast? with
  | some c => ⟨earliest, c.period⟩ :: fit
  | none => fit

/-- The zone as a timeline of whole minutes between 1901 and 2037. -/
def timeline (z : Zone) : Timeline :=
  ⟨wholeMinutes ⟨z.first, false⟩,
    (fitting (z.changesThrough 2037)).map fun c => ⟨c.second, wholeMinutes c.period⟩⟩

end Zone

end FeedSieve.Time
