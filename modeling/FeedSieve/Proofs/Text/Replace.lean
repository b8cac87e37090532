import FeedSieve.Text.Replace

/-!
# What a replacement changes

A replacement leaves the texts alone in which the part does not occur, and one by something shorter makes
the others shorter.
-/
namespace FeedSieve.Text

variable {part image : List Char}

theorem replaceAll_of_not_infix {s : List Char} (absent : ¬ part <:+: s) :
    replaceAll part image s = s := by
  induction s with
  | nil => rw [replaceAll]
  | cons c rest ih =>
    have elsewhere : ¬ part.isPrefixOf (c :: rest) := fun occurs =>
      absent (List.isPrefixOf_iff_prefix.mp occurs).isInfix
    have later : ¬ part <:+: rest := fun occurs =>
      absent (occurs.trans (List.suffix_cons c rest).isInfix)
    rw [replaceAll, if_neg (fun occurs => elsewhere occurs.2), ih later]

/-- An occurrence in front is replaced. -/
theorem replaceAll_part (nonempty : part ≠ []) (rest : List Char) :
    replaceAll part image (part ++ rest) = image ++ replaceAll part image rest := by
  obtain ⟨c, more, rfl⟩ := List.exists_cons_of_ne_nil nonempty
  have occurs : (c :: more).isPrefixOf (c :: more ++ rest) :=
    List.isPrefixOf_iff_prefix.mpr (List.prefix_append _ rest)
  rw [List.cons_append, replaceAll, if_pos ⟨nonempty, occurs⟩, ← List.cons_append, List.drop_left]

/-- Where the part's first character does not stand no occurrence begins. -/
theorem replaceAll_append_of_not_mem {mark : Char} {s : List Char} (absent : mark ∉ s)
    (rest : List Char) :
    replaceAll (mark :: part) image (s ++ rest) = s ++ replaceAll (mark :: part) image rest := by
  induction s with
  | nil => rfl
  | cons c s ih =>
    rw [List.mem_cons, not_or] at absent
    have other : ¬ (mark :: part).isPrefixOf (c :: (s ++ rest)) := by
      intro occurs
      exact absent.1 (List.cons_prefix_cons.mp (List.isPrefixOf_iff_prefix.mp occurs)).1
    rw [List.cons_append, replaceAll, if_neg (fun occurs => other occurs.2), ih absent.2,
      List.cons_append]

theorem length_replaceAll_le (shorter : image.length ≤ part.length) (s : List Char) :
    (replaceAll part image s).length ≤ s.length := by
  fun_induction replaceAll part image s with
  | case1 => exact Nat.le_refl _
  | case2 c rest occurs ih =>
    have covered := (List.isPrefixOf_iff_prefix.mp occurs.2).length_le
    rw [List.length_append]
    rw [List.length_drop] at ih
    omega
  | case3 c rest other ih =>
    rw [List.length_cons, List.length_cons]
    omega

theorem length_replaceAll_lt (shorter : image.length < part.length) {s : List Char}
    (occurs : part <:+: s) : (replaceAll part image s).length < s.length := by
  have nonempty : part ≠ [] := by
    rintro rfl
    simp at shorter
  fun_induction replaceAll part image s with
  | case1 => exact absurd (List.infix_nil.mp occurs) nonempty
  | case2 c rest here ih =>
    have covered := (List.isPrefixOf_iff_prefix.mp here.2).length_le
    have behind := length_replaceAll_le (Nat.le_of_lt shorter) ((c :: rest).drop part.length)
    rw [List.length_append]
    rw [List.length_drop] at behind
    omega
  | case3 c rest other ih =>
    have later : part <:+: rest := by
      rcases List.infix_cons_iff.mp occurs with front | later
      · exact absurd ⟨nonempty, List.isPrefixOf_iff_prefix.mpr front⟩ other
      · exact later
    have below := ih later
    rw [List.length_cons, List.length_cons]
    omega

end FeedSieve.Text
