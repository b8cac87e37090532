import FeedSieve.Filter.Clause
import FeedSieve.Text.Replace

/-!
# Filter expressions

A filter is a list of clauses with `~` between them, and a title passes if it passes each. Empty segments
do not count, so the empty filter accepts everything. The first segment that is no clause refuses the
filter.
-/
namespace FeedSieve.Filter

structure Expression where
  clauses : List Clause
  deriving Repr

structure FilterError where
  segment : String
  cause : ClauseError
  deriving DecidableEq, Repr

def FilterError.message (e : FilterError) : String := e.cause.message e.segment

/-- The segments of a filter that are not empty. -/
def segments (raw : String) : List String :=
  ((Text.splitAt '~' raw.toList).filter (· ≠ [])).map String.ofList

def parseSegment (segment : String) : Except FilterError Clause :=
  match Clause.parse segment with
  | .ok c => .ok c
  | .error e => .error ⟨segment, e⟩

namespace Expression

def ofSegments : List String → Except FilterError (List Clause)
  | [] => .ok []
  | s :: rest => do return (← parseSegment s) :: (← ofSegments rest)

def parse (raw : String) : Except FilterError Expression :=
  (ofSegments (segments raw)).map Expression.mk

def accepts (e : Expression) (title : String) : Bool := e.clauses.all (·.accepts title)

def render (e : Expression) : String := "~".intercalate (e.clauses.map Clause.render)

end Expression

end FeedSieve.Filter
