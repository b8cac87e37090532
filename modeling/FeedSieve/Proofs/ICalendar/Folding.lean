import FeedSieve.Proofs.ICalendar.Lines
import FeedSieve.Proofs.Text.Replace
import FeedSieve.Proofs.Text.Utf8

/-!
# What folded lines look like

A folded line is written as rows: its first piece, and each other piece behind a space. A row has at most
75 bytes (`length_encode_rows`). Whoever deletes each line end that a space follows, with the space, and
cuts at the line ends that are left has the lines again (`cutEnds_joined`).
-/
namespace FeedSieve.ICalendar

open Text

/-! ## Rows -/

/-- The rows of a line that is written in pieces. -/
def rows : List (List Char) → List (List Char)
  | [] => []
  | first :: more => first :: more.map (' ' :: ·)

theorem intercalate_eq_rows (first : List Char) (more : List (List Char)) :
    (lineEnd ++ [' ']).intercalate (first :: more) ++ lineEnd
      = (rows (first :: more)).flatMap (· ++ lineEnd) := by
  induction more generalizing first with
  | nil => simp [rows]
  | cons next more ih =>
    rw [List.intercalate_cons_cons, List.append_assoc, ih]
    simp [rows]

theorem foldFrom_ne_nil (piece : List Char) (size : Nat) (line : List Char) :
    foldFrom piece size line ≠ [] := by
  fun_induction foldFrom piece size line <;> simp_all

/-- A folded line is its rows, each with a line end. -/
theorem fold_eq_rows (line : List Char) :
    fold line = (rows (foldFrom [] 0 line)).flatMap (· ++ lineEnd) := by
  obtain ⟨first, more, pieces⟩ := List.exists_cons_of_ne_nil (foldFrom_ne_nil [] 0 line)
  rw [fold, pieces, intercalate_eq_rows]

/-! ## Sizes -/

theorem length_encode_cons (c : Char) (s : List Char) :
    (Utf8.encode (c :: s)).length = Utf8.width c + (Utf8.encode s).length := by
  rw [Utf8.encode, List.flatMap_cons, List.length_append]
  rfl

theorem length_encode_reverse (s : List Char) :
    (Utf8.encode s.reverse).length = (Utf8.encode s).length := by
  induction s with
  | nil => rfl
  | cons c s ih =>
    rw [List.reverse_cons, Utf8.encode_append, List.length_append, ih, length_encode_cons,
      length_encode_cons, Nat.add_comm]
    rfl

/-- Every piece has fewer bytes than the limit, if the one that is begun has. -/
theorem length_encode_foldFrom {piece : List Char} {size : Nat} (line : List Char)
    (counted : size = (Utf8.encode piece).length) (small : size < pieceLimit) :
    ∀ p ∈ foldFrom piece size line, (Utf8.encode p).length < pieceLimit := by
  have narrow := width_le
  -- The invariant: `size` counts the bytes of the current piece, and they are fewer than the limit.
  fun_induction foldFrom piece size line with
  | case1 piece size =>
    intro p member
    rw [List.mem_singleton.mp member, length_encode_reverse, ← counted]
    exact small
  | case2 size c rest width full d e more opens ih =>
    have two : Utf8.width d + width < pieceLimit := by
      have := narrow d
      have : width ≤ 4 := narrow c
      rw [pieceLimit]
      omega
    refine List.forall_mem_cons.mpr ⟨?_, ih ?_ two⟩
    · rw [length_encode_reverse]
      rw [length_encode_cons] at counted
      omega
    · rw [length_encode_cons, length_encode_cons, Nat.add_comm]
      rfl
  | case3 size c rest width full d e more plain ih =>
    have one : width < pieceLimit := Nat.lt_of_le_of_lt (narrow c) (by decide)
    refine List.forall_mem_cons.mpr ⟨?_, ih ?_ one⟩
    · rw [length_encode_reverse, ← counted]
      exact small
    · rw [length_encode_cons]
      rfl
  | case4 piece size c rest width full short ih =>
    have one : width < pieceLimit := Nat.lt_of_le_of_lt (narrow c) (by decide)
    refine List.forall_mem_cons.mpr ⟨?_, ih ?_ one⟩
    · rw [length_encode_reverse, ← counted]
      exact small
    · rw [length_encode_cons]
      rfl
  | case5 piece size c rest width fits ih =>
    refine ih ?_ (Nat.lt_of_not_le fits)
    rw [length_encode_cons, counted, Nat.add_comm]

/-- A row has at most 75 bytes. -/
theorem length_encode_rows (line : List Char) :
    ∀ row ∈ rows (foldFrom [] 0 line), (Utf8.encode row).length ≤ pieceLimit := by
  have begun : 0 = (Utf8.encode []).length := rfl
  have small := length_encode_foldFrom line begun (by decide)
  obtain ⟨first, more, pieces⟩ := List.exists_cons_of_ne_nil (foldFrom_ne_nil [] 0 line)
  rw [pieces] at small ⊢
  refine List.forall_mem_cons.mpr ⟨Nat.le_of_lt (small first List.mem_cons_self), fun row member => ?_⟩
  obtain ⟨piece, inside, rfl⟩ := List.mem_map.mp member
  have := small piece (List.mem_cons_of_mem first inside)
  have space : Utf8.width ' ' = 1 := by decide
  rw [length_encode_cons, space]
  omega

/-- A row of a line has no character that is neither the line's nor a space. -/
theorem mem_of_mem_rows {line row : List Char} (member : row ∈ rows (foldFrom [] 0 line)) {c : Char}
    (inside : c ∈ row) : c ∈ line ∨ c = ' ' := by
  have total : (foldFrom [] 0 line).flatten = line := flatten_foldFrom [] 0 line
  obtain ⟨first, more, pieces⟩ := List.exists_cons_of_ne_nil (foldFrom_ne_nil [] 0 line)
  rw [pieces] at member total
  have whole {piece : List Char} (h : piece ∈ first :: more) (here : c ∈ piece) : c ∈ line := by
    rw [← total]
    exact List.mem_flatten.mpr ⟨piece, h, here⟩
  rcases List.mem_cons.mp member with rfl | later
  · exact .inl (whole List.mem_cons_self inside)
  · obtain ⟨piece, here, rfl⟩ := List.mem_map.mp later
    rcases List.mem_cons.mp inside with space | text
    · exact .inr space
    · exact .inl (whole (List.mem_cons_of_mem first here) text)

/-! ## Joining and cutting -/

/-- The text with each line end that a space follows deleted, and the space with it. -/
def joined (s : List Char) : List Char := replaceAll (lineEnd ++ [' ']) [] s

/-- The pieces of a text between line ends. -/
def cutEnds : List Char → List (List Char)
  | [] => [[]]
  | '\r' :: '\n' :: rest => [] :: cutEnds rest
  | c :: rest =>
    match cutEnds rest with
    | line :: more => (c :: line) :: more
    | [] => [[c]]

theorem joined_append {s : List Char} (uncarried : '\r' ∉ s) (rest : List Char) :
    joined (s ++ rest) = s ++ joined rest :=
  replaceAll_append_of_not_mem uncarried rest

theorem joined_continued (rest : List Char) : joined (lineEnd ++ ' ' :: rest) = joined rest :=
  replaceAll_part (by decide : lineEnd ++ [' '] ≠ []) rest

/-- A line end is kept where no space follows. -/
theorem joined_lineEnd {rest : List Char} (ended : rest.head? ≠ some ' ') :
    joined (lineEnd ++ rest) = lineEnd ++ joined rest := by
  have other : ¬ (lineEnd ++ [' ']).isPrefixOf (lineEnd ++ rest) := by
    intro occurs
    obtain ⟨more, same⟩ := List.isPrefixOf_iff_prefix.mp occurs
    rw [List.append_assoc] at same
    have begins := List.append_cancel_left same
    rw [← begins] at ended
    exact ended rfl
  have feed : joined ('\n' :: rest) = '\n' :: joined rest :=
    joined_append (by decide : '\r' ∉ ['\n']) rest
  have whole : lineEnd ++ rest = '\r' :: '\n' :: rest := rfl
  rw [joined, whole, replaceAll, ← whole, if_neg (fun occurs => other occurs.2)]
  exact congrArg ('\r' :: ·) feed

/-- The rows of a line join to the line. -/
theorem joined_rows {first : List Char} {more : List (List Char)}
    (uncarried : '\r' ∉ (first :: more).flatten) {rest : List Char} (ended : rest.head? ≠ some ' ') :
    joined ((rows (first :: more)).flatMap (· ++ lineEnd) ++ rest)
      = (first :: more).flatten ++ lineEnd ++ joined rest := by
  induction more generalizing first with
  | nil =>
    have text : (rows [first]).flatMap (· ++ lineEnd) ++ rest = first ++ (lineEnd ++ rest) := by
      simp [rows]
    rw [List.flatten_singleton] at uncarried ⊢
    rw [text, joined_append uncarried, joined_lineEnd ended, List.append_assoc]
  | cons next more ih =>
    have text : (rows (first :: next :: more)).flatMap (· ++ lineEnd) ++ rest
        = first ++ (lineEnd ++ ' ' :: ((rows (next :: more)).flatMap (· ++ lineEnd) ++ rest)) := by
      simp [rows]
    rw [List.flatten_cons, List.mem_append, not_or] at uncarried
    rw [text, joined_append uncarried.1, joined_continued, ih uncarried.2,
      List.flatten_cons (l := first)]
    simp only [List.append_assoc]

theorem joined_fold {line : List Char} (uncarried : '\r' ∉ line) {rest : List Char}
    (ended : rest.head? ≠ some ' ') : joined (fold line ++ rest) = line ++ lineEnd ++ joined rest := by
  have total : (foldFrom [] 0 line).flatten = line := flatten_foldFrom [] 0 line
  obtain ⟨first, more, pieces⟩ := List.exists_cons_of_ne_nil (foldFrom_ne_nil [] 0 line)
  rw [pieces] at total
  rw [fold_eq_rows, pieces, joined_rows (by rw [total]; exact uncarried) ended, total]

/-- Joining leaves each folded line with its end. -/
theorem joined_folded {ls : List (List Char)} (h : ∀ line ∈ ls, Bare line) :
    joined (ls.flatMap fold) = ls.flatMap (· ++ lineEnd) := by
  induction ls with
  | nil => rw [List.flatMap_nil, joined, replaceAll, List.flatMap_nil]
  | cons line more ih =>
    have others : ∀ line ∈ more, Bare line := fun l member => h l (List.mem_cons_of_mem line member)
    have ended : (more.flatMap fold).head? ≠ some ' ' := by
      cases more with
      | nil => simp
      | cons next more =>
        obtain ⟨c, rest, rfl, -, space, -⟩ := (others next List.mem_cons_self).begins
        obtain ⟨tail, text⟩ := fold_begins c rest (more.flatMap fold)
        rw [List.flatMap_cons, text]
        simpa using space
    rw [List.flatMap_cons, joined_fold (h line List.mem_cons_self).uncarried ended, ih others,
      List.flatMap_cons]

theorem cutEnds_line {line : List Char} (uncarried : '\r' ∉ line) (rest : List Char) :
    cutEnds (line ++ lineEnd ++ rest) = line :: cutEnds rest := by
  induction line with
  | nil => rfl
  | cons c line ih =>
    rw [List.mem_cons, not_or] at uncarried
    rw [List.cons_append, List.cons_append, cutEnds.eq_3, ih uncarried.2]
    intro _ carriage
    exact absurd carriage.symm uncarried.1

/-- Folded lines, joined and cut at the line ends, are the lines they were. -/
theorem cutEnds_joined {ls : List (List Char)} (h : ∀ line ∈ ls, Bare line) :
    cutEnds (joined (ls.flatMap fold)) = ls ++ [[]] := by
  rw [joined_folded h]
  induction ls with
  | nil => rfl
  | cons line more ih =>
    have others : ∀ line ∈ more, Bare line := fun l member => h l (List.mem_cons_of_mem line member)
    rw [List.flatMap_cons, cutEnds_line (h line List.mem_cons_self).uncarried, ih others,
      List.cons_append]

/-! ## Bytes -/

def lineEndBytes : List UInt8 := [13, 10]

theorem encode_rows (rs : List (List Char)) :
    Utf8.encode (rs.flatMap (· ++ lineEnd)) = (rs.map Utf8.encode).flatMap (· ++ lineEndBytes) := by
  have ends : Utf8.encode lineEnd = lineEndBytes := by decide
  induction rs with
  | nil => rfl
  | cons row more ih =>
    rw [List.flatMap_cons, Utf8.encode_append, Utf8.encode_append, ih, ends]
    rfl

/-- The bytes of folded lines are rows of at most 75 bytes, each with a line end and none in it. -/
theorem encode_folded {ls : List (List Char)} (h : ∀ line ∈ ls, Bare line) :
    ∃ written : List (List UInt8),
      Utf8.encode (ls.flatMap fold) = written.flatMap (· ++ lineEndBytes) ∧
      ∀ row ∈ written, row.length ≤ 75 ∧ 13 ∉ row ∧ 10 ∉ row := by
  have text : ls.flatMap fold
      = (ls.flatMap fun line => rows (foldFrom [] 0 line)).flatMap (· ++ lineEnd) := by
    rw [List.flatMap_assoc]
    exact congrArg (ls.flatMap ·) (funext fold_eq_rows)
  refine ⟨_, by rw [text, encode_rows], fun bytes member => ?_⟩
  obtain ⟨row, inRows, rfl⟩ := List.mem_map.mp member
  obtain ⟨line, inside, piece⟩ := List.mem_flatMap.mp inRows
  have bare := h line inside
  refine ⟨length_encode_rows line row piece, ?_, ?_⟩
  · intro carriage
    have char : '\r' ∈ row := Utf8.mem_of_mem_encode carriage (by decide)
    rcases mem_of_mem_rows piece char with here | space
    · exact bare.uncarried here
    · cases space
  · intro feed
    have char : '\n' ∈ row := Utf8.mem_of_mem_encode feed (by decide)
    rcases mem_of_mem_rows piece char with here | space
    · exact bare.unbroken here
    · cases space

end FeedSieve.ICalendar
