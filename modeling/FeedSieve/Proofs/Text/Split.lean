import FeedSieve.Text.Replace

/-!
# The pieces of a text

`splitAt` is the library's `splitOn`. No piece holds the mark, and a text is cut into such pieces in one
way only (`eq_splitAt_iff`).
-/
namespace FeedSieve.Text

variable {mark : Char}

theorem splitAt_eq_splitOn (mark : Char) (s : List Char) : splitAt mark s = s.splitOn mark := by
  induction s with
  | nil => rfl
  | cons c rest ih =>
    rw [splitAt, List.splitOn_cons_eq_if_modifyHead, ih]
    by_cases marked : c = mark
    · rw [if_pos marked, if_pos (beq_iff_eq.mpr marked)]
    · rw [if_neg marked, if_neg (fun same => marked (beq_iff_eq.mp same))]
      obtain ⟨piece, pieces, cut⟩ := List.exists_cons_of_ne_nil (List.splitOn_ne_nil mark rest)
      rw [cut, List.modifyHead_cons]

theorem splitAt_ne_nil (mark : Char) (s : List Char) : splitAt mark s ≠ [] := by
  rw [splitAt_eq_splitOn]
  exact List.splitOn_ne_nil mark s

theorem intercalate_splitAt (mark : Char) (s : List Char) : [mark].intercalate (splitAt mark s) = s := by
  rw [splitAt_eq_splitOn]
  exact List.intercalate_splitOn mark

/-- A mark ends the pieces before it. -/
theorem splitAt_append (s rest : List Char) :
    splitAt mark (s ++ mark :: rest) = splitAt mark s ++ splitAt mark rest := by
  simp only [splitAt_eq_splitOn]
  exact List.splitOn_append_cons_self s rest

theorem not_mem_of_mem_splitAt {s piece : List Char} (member : piece ∈ splitAt mark s) :
    mark ∉ piece := by
  induction s generalizing piece with
  | nil =>
    rw [splitAt, List.mem_singleton] at member
    rw [member]
    exact List.not_mem_nil
  | cons c rest ih =>
    rw [splitAt] at member
    split at member
    case isTrue =>
      rcases List.mem_cons.mp member with rfl | later
      · exact List.not_mem_nil
      · exact ih later
    case isFalse other =>
      obtain ⟨first, more, cut⟩ := List.exists_cons_of_ne_nil (splitAt_ne_nil mark rest)
      rw [cut] at member ih
      rcases List.mem_cons.mp member with rfl | later
      · rw [List.mem_cons, not_or]
        exact ⟨fun same => other same.symm, ih List.mem_cons_self⟩
      · exact ih (List.mem_cons_of_mem first later)

/-- The pieces of a text are the texts without the mark that it joins. -/
theorem eq_splitAt_iff {s : List Char} {pieces : List (List Char)} :
    pieces = splitAt mark s ↔
      [mark].intercalate pieces = s ∧ pieces ≠ [] ∧ ∀ piece ∈ pieces, mark ∉ piece := by
  constructor
  · rintro rfl
    exact ⟨intercalate_splitAt mark s, splitAt_ne_nil mark s, fun _ => not_mem_of_mem_splitAt⟩
  · rintro ⟨rfl, nonempty, bare⟩
    rw [splitAt_eq_splitOn, List.splitOn_intercalate mark bare nonempty]

end FeedSieve.Text
