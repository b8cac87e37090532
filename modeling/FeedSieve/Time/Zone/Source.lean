import FeedSieve.Time.Zone

/-!
# Notation for zones

A row holds a zone. `first` is the offset before all changes, `periods` are the periods that come up later,
and `rule` is the yearly rule that goes on after the changes. `changes` has ten hexadecimal digits for each
change, several changes to a number: the last digit is the place of the new period among `periods`, and the
nine before it are the seconds since the change before. The count starts with the year 1800.
-/
namespace FeedSieve.Time.Zone

/-- A zone in the notation of this module. -/
structure Source where
  name : String
  first : Int
  periods : List Period
  changes : List Nat
  rule : Option YearlyRule
  deriving DecidableEq, Repr, Inhabited

namespace Source

/-- The second of year 1 with which the year 1800 begins. -/
def origin : Nat := 56770934400

/-- The size of an entry of ten digits. -/
def entrySize : Nat := 0x10000000000

/-- Puts the entries of a number, at most the given count, before later ones. No entry is 0. -/
def unpack : (count n : Nat) → List Nat → List Nat
  | 0, _, later => later
  | count + 1, n, later =>
    if n = 0 then later else unpack count (n / entrySize) (n % entrySize :: later)

/-- The entries of a row: nine to a number. -/
def entries (s : Source) : List Nat := s.changes.foldr (unpack 9) []

/-- The seconds of an entry since the change before. -/
def wait (entry : Nat) : Nat := entry / 16

/-- The changes of entries after a second. -/
def changesOf (periods : List Period) (last : Nat) : List Nat → List Change
  | [] => []
  | entry :: rest =>
    ⟨(last + wait entry : Nat), periods.getD (entry % 16) default⟩
      :: changesOf periods (last + wait entry) rest

def zone (s : Source) : Zone := ⟨s.first, changesOf s.periods origin s.entries, s.rule⟩

end Source

end FeedSieve.Time.Zone
