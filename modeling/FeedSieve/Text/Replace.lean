/-!
# Replacing parts of a text

Every occurrence of a part is replaced, reading from the left; what is put in is not read again.
-/
namespace FeedSieve.Text

/-- Every occurrence of a part replaced. An empty part occurs nowhere. -/
def replaceAll (part image : List Char) (s : List Char) : List Char :=
  match s with
  | [] => []
  | c :: rest =>
    if part ≠ [] ∧ part.isPrefixOf (c :: rest) then
      image ++ replaceAll part image ((c :: rest).drop part.length)
    else c :: replaceAll part image rest
  termination_by s.length
  decreasing_by
    · rename_i h
      have : 0 < part.length := List.length_pos_iff.2 h.1
      simp only [List.length_drop, List.length_cons]
      omega
    · simp

def splitAt (mark : Char) : List Char → List (List Char)
  | [] => [[]]
  | c :: rest =>
    if c = mark then [] :: splitAt mark rest
    else match splitAt mark rest with
      | piece :: pieces => (c :: piece) :: pieces
      | [] => [[c]]

end FeedSieve.Text
