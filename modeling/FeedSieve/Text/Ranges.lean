/-!
# Sorted ranges

A property of characters is kept as closed ranges of code points in increasing order. Membership is
a binary search.
-/
namespace FeedSieve.Text.Ranges

/-- Searches the ranges with index from `low` up to `high`, at most `steps` halvings. -/
def search (ranges : Array (Nat × Nat)) (n : Nat) : (steps low high : Nat) → Bool
  | 0, _, _ => false
  | steps + 1, low, high =>
    if low < high then
      let middle := (low + high) / 2
      match ranges[middle]? with
      | none => false
      | some (first, last) =>
        if n < first then search ranges n steps low middle
        else if last < n then search ranges n steps (middle + 1) high
        else true
    else false

/-- Whether a code point lies in one of the ranges. -/
def mem (ranges : Array (Nat × Nat)) (n : Nat) : Bool :=
  search ranges n (ranges.size + 1) 0 ranges.size

end FeedSieve.Text.Ranges
