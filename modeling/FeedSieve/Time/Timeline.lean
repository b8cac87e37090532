import FeedSieve.Time.Instant
import FeedSieve.Time.Library

/-!
# Local time from a table of changes

A timeline says which offset is in force between two changes. `Timeline.localOffset?` finds the offset at
which a wall clock shows a reading. It looks at the offsets in force a day before and a day after. A
reading shown twice takes standard time, or else the later instant; a reading never shown takes the offset
in force before the clocks were put forward.
-/
namespace FeedSieve.Time

/-- What is in force between two changes: seconds ahead of UTC, and whether clocks are shifted from
standard time. -/
structure Period where
  offset : Int
  shifted : Bool
  deriving DecidableEq, Repr, Inhabited

/-- A change of the period at a second of UTC, counted from the start of year 1. -/
structure Change where
  second : Int
  period : Period
  deriving DecidableEq, Repr, Inhabited

/-- A first period and the later changes in order. -/
structure Timeline where
  first : Period
  changes : List Change
  deriving DecidableEq, Repr, Inhabited

/-- The day before a reading and the day after it lie in the years 1 to 9999. -/
def Wall.Surrounded (w : Wall) : Prop := day ≤ w.ticks.val ∧ w.ticks.val + day < span

instance (w : Wall) : Decidable w.Surrounded := inferInstanceAs (Decidable (_ ∧ _))

namespace Timeline

/-- The period after the changes up to a second, starting from a given one. -/
def advance (current : Period) (second : Int) : List Change → Period
  | [] => current
  | c :: rest => if c.second ≤ second then advance c.period second rest else current

/-- The period in force at a second of UTC. -/
def periodAt (z : Timeline) (second : Int) : Period := advance z.first second z.changes

/-- Takes the offset in force some days away as a guess. It is right if the clock shows the reading at the
instant this gives, and the result is then the period of that instant. -/
def guess? (z : Timeline) (w : Wall) (days : Int) : Option Period := do
  let near ← w.ticks.shift? (days * day)
  let t ← w.toInstant? (z.periodAt (near.val / Time.second)).offset
  let period := z.periodAt t.seconds
  let shown ← t.toWall? period.offset
  if shown = w then some period else none

/-- The choice between two periods in which the clock shows the same reading: the one on standard time,
or else the one whose instant is later. -/
def choose (p q : Period) : Period :=
  if p.shifted = q.shifted then (if p.offset ≤ q.offset then p else q)
  else if p.shifted then q else p

/-- The offset that two guesses give, if any of them is right. -/
def settle : Option Period → Option Period → Option Int
  | some p, some q => some (choose p q).offset
  | some p, none => some p.offset
  | none, some q => some q.offset
  | none, none => none

/-- The offset at which a wall clock shows a reading, by the periods a day before and a day after it. -/
def nearby? (z : Timeline) (w : Wall) : Option Int := settle (z.guess? w (-1)) (z.guess? w 1)

def sixHours : Nat := 21600 * Time.second

def putBack? (w : Wall) : Option Wall := (w.ticks.shift? (-(sixHours : Int))).map Wall.mk

/-- What is found for a reading, or else for an earlier one, in at most the given number of attempts. -/
def search (find? : Wall → Option Int) (earlier? : Wall → Option Wall) : (attempts : Nat) → Wall → Option Int
  | 0, _ => none
  | attempts + 1, w => (find? w).or ((earlier? w).bind (search find? earlier? attempts))

section Library

variable [ZoneLibrary]

/-- The reading, unless the library refuses it for the days around it. -/
def admit? (w : Wall) : Option Wall :=
  if ZoneLibrary.strict = true ∧ ¬ w.Surrounded then none else some w

/-- A reading put back by six hours, unless it is then refused. -/
def earlier? (w : Wall) : Option Wall := (putBack? w).bind admit?

/-- The offset at which a wall clock shows a reading, or the one before it was skipped: a reading that is
never shown is put back until one is. The result is `none` when this leaves the years 1 to 9999. A timeline
without changes needs no search. -/
def localOffset? (z : Timeline) (w : Wall) : Option Int :=
  if z.changes = [] then some z.first.offset
  else (admit? w).bind (search z.nearby? earlier? (w.ticks.val / sixHours + 1))

/-- The instant at which a wall clock shows a reading. -/
def toInstant? (z : Timeline) (w : Wall) : Option Instant := do
  let offset ← z.localOffset? w
  w.toInstant? offset

end Library

end Timeline

end FeedSieve.Time
