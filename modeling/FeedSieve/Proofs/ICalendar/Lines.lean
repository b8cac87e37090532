import FeedSieve.ICalendar.Lines

/-!
# Folded lines read back

Lines that are folded and joined are read as the same lines (`lines_fold`), provided each has a
character, does not begin with a blank and holds no line feed. A carriage return in a line is text, also
where the line is folded behind it, because every line end begins with one. Lines without carriage returns may as well
be written whole, each with the line end of either kind (`lines_whole`).
-/
namespace FeedSieve.ICalendar

/-- A line that can be told from what stands around it. -/
structure Separable (line : List Char) : Prop where
  unbroken : '\n' ∉ line
  begins : ∃ c rest, line = c :: rest ∧ c ≠ '\r' ∧ c ≠ ' ' ∧ c ≠ '\t'

/-! ## Pieces -/

/-- Folding leaves out nothing and adds nothing. -/
theorem flatten_foldFrom (piece : List Char) (size : Nat) (line : List Char) :
    (foldFrom piece size line).flatten = piece.reverse ++ line := by
  fun_induction foldFrom piece size line with
  | case1 => simp
  | case2 => simp_all
  | case3 => simp_all
  | case4 => simp_all
  | case5 => simp_all

/-- A piece that has a character is not folded away. -/
theorem foldFrom_eq_cons (piece : List Char) (size : Nat) (line : List Char) (h : piece ≠ []) :
    ∃ c first more, foldFrom piece size line = (c :: first) :: more := by
  have begun : ∀ s : List Char, s ≠ [] → ∃ c first, s.reverse = c :: first := fun s nonempty =>
    List.exists_cons_of_ne_nil (by simpa using nonempty)
  fun_induction foldFrom piece size line with
  | case1 piece =>
    obtain ⟨c, first, same⟩ := begun piece h
    exact ⟨c, first, [], by rw [same]⟩
  | case2 size c rest width full d e more opens ih =>
    obtain ⟨b, first, same⟩ := begun (e :: more) (by simp)
    exact ⟨b, first, _, by rw [same]⟩
  | case3 size c rest width full d e more plain ih =>
    obtain ⟨b, first, same⟩ := begun (d :: e :: more) h
    exact ⟨b, first, _, by rw [same]⟩
  | case4 piece size c rest width full short ih =>
    obtain ⟨b, first, same⟩ := begun piece h
    exact ⟨b, first, _, by rw [same]⟩
  | case5 piece size c rest width fits ih => exact ih (by simp)

theorem width_le (c : Char) : Text.Utf8.width c ≤ 4 := by
  unfold Text.Utf8.width Text.Utf8.encodeChar
  dsimp only
  split
  · simp
  · split
    · simp
    · split <;> simp

/-- The first piece of a line begins with the character the line begins with. -/
theorem foldFrom_start (c : Char) (rest : List Char) :
    ∃ first more, foldFrom [] 0 (c :: rest) = (c :: first) :: more := by
  have fits : ¬ pieceLimit ≤ 0 + Text.Utf8.width c := by
    have narrow := width_le c
    rw [pieceLimit]
    omega
  have started : foldFrom [] 0 (c :: rest) = foldFrom [c] (0 + Text.Utf8.width c) rest := by
    rw [foldFrom, if_neg fits]
    rintro d e more ⟨⟩
  rw [started]
  obtain ⟨d, first, more, same⟩ :=
    foldFrom_eq_cons [c] (0 + Text.Utf8.width c) rest (by simp)
  have total := flatten_foldFrom [c] (0 + Text.Utf8.width c) rest
  rw [same] at total
  simp only [List.flatten_cons, List.cons_append, List.reverse_singleton, List.nil_append,
    List.cons.injEq] at total
  exact ⟨first, more, by rw [same, total.1]⟩

/-- A folded line has the characters it had, with breaks between them. -/
theorem fold_begins (c : Char) (rest more : List Char) :
    ∃ tail, fold (c :: rest) ++ more = c :: tail := by
  obtain ⟨first, pieces, folded⟩ := foldFrom_start c rest
  rw [fold, folded]
  cases pieces <;> exact ⟨_, by simp [List.intercalate]; rfl⟩

/-! ## Joining pieces -/

/-- A character is text if it is no line feed and no carriage return before one. -/
theorem unfoldFrom_cons {c : Char} {rest : List Char} (feed : c ≠ '\n')
    (behind : rest.head? ≠ some '\n') : unfoldFrom [] (c :: rest) = c :: unfoldFrom [] rest := by
  rw [unfoldFrom.eq_4]
  · simp
  · rintro rest' - rfl
    exact behind rfl
  · exact feed

theorem unfoldFrom_unbroken {piece : List Char} (h : '\n' ∉ piece) (rest : List Char) :
    unfoldFrom [] (piece ++ '\r' :: rest) = piece ++ unfoldFrom [] ('\r' :: rest) := by
  induction piece with
  | nil => rfl
  | cons c piece ih =>
    rw [List.mem_cons, not_or] at h
    -- The character may be a carriage return: it is text because no line feed stands behind it.
    have behind : (piece ++ '\r' :: rest).head? ≠ some '\n' := by
      cases piece with
      | nil => simp
      | cons d more =>
        intro feed
        cases feed
        exact h.2 List.mem_cons_self
    rw [List.cons_append, unfoldFrom_cons (Ne.symm h.1) behind, ih h.2, List.cons_append]

/-- A break with a blank behind it joins what is around it. -/
theorem unfoldFrom_continued (rest : List Char) :
    unfoldFrom [] (lineEnd ++ ' ' :: rest) = unfoldFrom [] rest := by
  simp [lineEnd, unfoldFrom]

theorem unfoldFrom_intercalate {pieces : List (List Char)} (h : ∀ piece ∈ pieces, '\n' ∉ piece)
    (rest : List Char) :
    unfoldFrom [] ((lineEnd ++ [' ']).intercalate pieces ++ lineEnd ++ rest)
      = pieces.flatten ++ unfoldFrom [] (lineEnd ++ rest) := by
  induction pieces with
  | nil => rfl
  | cons piece more ih =>
    have unbroken := h piece List.mem_cons_self
    have others : ∀ piece ∈ more, '\n' ∉ piece := fun p member =>
      h p (List.mem_cons_of_mem piece member)
    cases more with
    | nil => simp [lineEnd, unfoldFrom_unbroken unbroken]
    | cons next more =>
      let later := (lineEnd ++ [' ']).intercalate (next :: more) ++ lineEnd ++ rest
      have parts : (lineEnd ++ [' ']).intercalate (piece :: next :: more) ++ lineEnd ++ rest
          = piece ++ '\r' :: '\n' :: ' ' :: later := by
        simp [later, lineEnd, List.intercalate_cons_cons]
      -- The break goes together with the blank behind it, so that the pieces meet.
      have continued : unfoldFrom [] ('\r' :: '\n' :: ' ' :: later) = unfoldFrom [] later :=
        unfoldFrom_continued later
      rw [parts, unfoldFrom_unbroken unbroken, continued, ih others]
      simp only [List.flatten_cons, List.append_assoc]

theorem fold_unfolds {line : List Char} (h : '\n' ∉ line) (rest : List Char) :
    unfoldFrom [] (fold line ++ rest) = line ++ unfoldFrom lineEnd rest := by
  have total := flatten_foldFrom [] 0 line
  have pieces : ∀ piece ∈ foldFrom [] 0 line, '\n' ∉ piece := by
    intro piece member inside
    have whole : '\n' ∈ (foldFrom [] 0 line).flatten := List.mem_flatten.mpr ⟨piece, member, inside⟩
    rw [total] at whole
    exact h whole
  rw [fold, unfoldFrom_intercalate pieces, total]
  rfl

/-- A character that is neither a blank nor a break ends the run of breaks before it. -/
theorem unfoldFrom_held {c : Char} (carriage : c ≠ '\r') (feed : c ≠ '\n') (space : c ≠ ' ')
    (tab : c ≠ '\t') (held rest : List Char) :
    unfoldFrom held (c :: rest) = held ++ unfoldFrom [] (c :: rest) := by
  rw [unfoldFrom.eq_4, unfoldFrom.eq_4]
  · simp [space, tab]
  · intro _ h
    exact absurd h carriage
  · exact feed
  · intro _ h
    exact absurd h carriage
  · exact feed

/-- Joining the pieces of folded lines leaves each line with its end. -/
theorem unfoldFrom_folded (held : List Char) {ls : List (List Char)} (h : ∀ line ∈ ls, Separable line) :
    unfoldFrom held (ls.flatMap fold) = held ++ ls.flatMap (· ++ lineEnd) := by
  induction ls generalizing held with
  | nil => simp [unfoldFrom]
  | cons line more ih =>
    have separable := h line List.mem_cons_self
    have others : ∀ line ∈ more, Separable line := fun l member =>
      h l (List.mem_cons_of_mem line member)
    obtain ⟨c, rest, rfl, carriage, space, tab⟩ := separable.begins
    have feed : c ≠ '\n' := by
      rintro rfl
      exact separable.unbroken List.mem_cons_self
    obtain ⟨tail, same⟩ := fold_begins c rest (more.flatMap fold)
    rw [List.flatMap_cons, same, unfoldFrom_held carriage feed space tab, ← same,
      fold_unfolds separable.unbroken, ih lineEnd others, List.flatMap_cons, List.append_assoc]

/-! ## Cutting at line ends -/

theorem splitBreaks_line {line : List Char} (h : '\n' ∉ line) (rest : List Char) :
    splitBreaks (line ++ lineEnd ++ rest) = line :: splitBreaks rest := by
  induction line with
  | nil => rfl
  | cons c line ih =>
    rw [List.mem_cons, not_or] at h
    rw [List.cons_append, List.cons_append, splitBreaks.eq_4, ih h.2]
    · intro rest' carriage behind
      cases line with
      | nil => cases behind
      | cons d more =>
        cases behind
        exact h.2 List.mem_cons_self
    · exact Ne.symm h.1

theorem splitBreaks_lines {ls : List (List Char)} (h : ∀ line ∈ ls, '\n' ∉ line) :
    splitBreaks (ls.flatMap (· ++ lineEnd)) = ls ++ [[]] := by
  induction ls with
  | nil => rfl
  | cons line more ih =>
    have others : ∀ line ∈ more, '\n' ∉ line := fun l member =>
      h l (List.mem_cons_of_mem line member)
    rw [List.flatMap_cons, splitBreaks_line (h line List.mem_cons_self), ih others,
      List.cons_append]

/-- A line feed ends a line in which no line end begins. -/
theorem splitBreaks_feed {line : List Char} (feed : '\n' ∉ line) (carriage : '\r' ∉ line)
    (rest : List Char) : splitBreaks (line ++ '\n' :: rest) = line :: splitBreaks rest := by
  induction line with
  | nil => rfl
  | cons c line ih =>
    rw [List.mem_cons, not_or] at feed carriage
    rw [List.cons_append, splitBreaks.eq_4, ih feed.2 carriage.2]
    · intro _ same
      exact absurd same.symm carriage.1
    · exact Ne.symm feed.1

/-- The empty rest behind the last line end is dropped, and nothing else. -/
theorem filter_nonempty {ls : List (List Char)} (h : ∀ line ∈ ls, Separable line) :
    (ls ++ [[]]).filter (· ≠ []) = ls := by
  have nonempty : ∀ line ∈ ls, line ≠ [] := by
    rintro line member rfl
    obtain ⟨c, rest, same, -⟩ := (h [] member).begins
    cases same
  rw [List.filter_append, List.filter_eq_self.mpr (by simpa using nonempty)]
  simp

/-- Folded lines are read as the lines they were. -/
theorem lines_fold {ls : List (List Char)} (h : ∀ line ∈ ls, Separable line) :
    lines (ls.flatMap fold) = ls := by
  rw [lines, unfold, unfoldFrom_folded [] h, List.nil_append,
    splitBreaks_lines fun line member => (h line member).unbroken, filter_nonempty h]

/-! ## Lines written whole -/

inductive LineEnd where
  | crlf | lf
  deriving DecidableEq, Repr

def LineEnd.text : LineEnd → List Char
  | .crlf => lineEnd
  | .lf => ['\n']

/-- The text of lines that are not folded. -/
def whole (e : LineEnd) (ls : List (List Char)) : List Char := ls.flatMap (· ++ e.text)

/-- A line without line ends and carriage returns that can be told from what stands around it. -/
structure Bare (line : List Char) : Prop extends Separable line where
  uncarried : '\r' ∉ line

theorem unfoldFrom_bare {s : List Char} (feed : '\n' ∉ s) (carriage : '\r' ∉ s) (rest : List Char) :
    unfoldFrom [] (s ++ rest) = s ++ unfoldFrom [] rest := by
  induction s with
  | nil => rfl
  | cons c s ih =>
    rw [List.mem_cons, not_or] at feed carriage
    rw [List.cons_append, unfoldFrom.eq_4, ih feed.2 carriage.2]
    · rfl
    · intro _ same
      exact absurd same.symm carriage.1
    · exact Ne.symm feed.1

theorem unfoldFrom_whole (e : LineEnd) (held : List Char) {ls : List (List Char)}
    (h : ∀ line ∈ ls, Bare line) : unfoldFrom held (whole e ls) = held ++ whole e ls := by
  induction ls generalizing held with
  | nil => simp [whole, unfoldFrom]
  | cons line more ih =>
    have bare := h line List.mem_cons_self
    have later := ih e.text fun l member => h l (List.mem_cons_of_mem line member)
    have ended : unfoldFrom [] (e.text ++ whole e more) = unfoldFrom e.text (whole e more) := by
      cases e <;> rfl
    have joined : unfoldFrom [] (line ++ (e.text ++ whole e more))
        = line ++ (e.text ++ whole e more) := by
      rw [unfoldFrom_bare bare.unbroken bare.uncarried, ended, later]
    have split : whole e (line :: more) = line ++ (e.text ++ whole e more) := by
      rw [whole, List.flatMap_cons, List.append_assoc]
      rfl
    obtain ⟨c, rest, rfl, carriage, space, tab⟩ := bare.begins
    have feed : c ≠ '\n' := by
      rintro rfl
      exact bare.unbroken List.mem_cons_self
    rw [split, List.cons_append, unfoldFrom_held carriage feed space tab, ← List.cons_append, joined]

theorem splitBreaks_whole (e : LineEnd) {ls : List (List Char)} (h : ∀ line ∈ ls, Bare line) :
    splitBreaks (whole e ls) = ls ++ [[]] := by
  cases e with
  | crlf => exact splitBreaks_lines fun line member => (h line member).unbroken
  | lf =>
    induction ls with
    | nil => rfl
    | cons line more ih =>
      have bare := h line List.mem_cons_self
      have later := ih fun l member => h l (List.mem_cons_of_mem line member)
      have split : whole .lf (line :: more) = line ++ '\n' :: whole .lf more := by
        rw [whole, List.flatMap_cons, List.append_assoc]
        rfl
      rw [split, splitBreaks_feed bare.unbroken bare.uncarried, later, List.cons_append]

/-- Lines that are written whole are read as they are. -/
theorem lines_whole (e : LineEnd) {ls : List (List Char)} (h : ∀ line ∈ ls, Bare line) :
    lines (whole e ls) = ls := by
  rw [lines, unfold, unfoldFrom_whole e [] h, List.nil_append, splitBreaks_whole e h,
    filter_nonempty fun line member => (h line member).toSeparable]

end FeedSieve.ICalendar
