import FeedSieve.Proofs.Filter.Expression

/-!
# Filters written out

Writing a filter that was read leaves out its empty pieces and what stands behind `true:`, and nothing
else. What is written is read as the same filter. Main statement: `render_normalizes`.
-/
namespace FeedSieve.Filter

/-- A piece with no text behind `true:`. -/
def Tidy (piece : String) : Prop := ∀ negated q, piece = mark negated ++ "true" ++ ":" ++ q → q = ""

/-! ## Clauses -/

section Clause

variable {s q : String} {c : Clause}

theorem render_eq (c : Clause) :
    c.render = mark c.negated ++ c.condition.name ++ ":" ++ c.condition.text := rfl

/-- What is written for a clause is the clause again. -/
theorem Reads.render (h : Reads s c q) : Reads c.render c c.condition.text := by
  refine ⟨render_eq c, ?_, ?_⟩
  · split
    case isTrue always => exact h.text.trans (if_pos always)
    case isFalse => rfl
  · intro text node same
    have read := h.compiled text node same
    have kept := h.text
    rw [same] at kept ⊢
    rwa [show q = text from kept.symm] at read

/-- A clause is written as it was read unless it is `true` with a text. -/
theorem Reads.render_eq_iff (h : Reads s c q) : c.render = s ↔ Tidy s := by
  constructor
  · rintro rfl negated text written
    have always := cut_of_name (by decide) written
    obtain ⟨-, name, rfl⟩ := always.unique h.render.cut
    exact h.render.text.trans (if_pos name.symm)
  · intro tidy
    have kept : c.condition.text = q := by
      by_cases always : c.condition.name = "true"
      · rw [h.text, if_pos always]
        exact (tidy c.negated q (always ▸ h.written)).symm
      · rw [h.text, if_neg always]
    rw [render_eq, kept]
    exact h.written.symm

/-- Nothing is written for a clause that was not read. -/
theorem Reads.mem_of_mem_render (h : Reads s c q) {letter : Char} (written : letter ∈ c.render.toList) :
    letter ∈ s.toList := by
  have text : letter ∈ c.condition.text.toList → letter ∈ q.toList := by
    rw [h.text]
    split <;> simp
  rw [render_eq, String.toList_append, List.mem_append] at written
  rw [h.written, String.toList_append, List.mem_append]
  exact written.imp_right text

theorem render_ne_empty (c : Clause) : c.render ≠ "" := by
  intro empty
  have colon : ':' ∈ c.render.toList := by simp [render_eq, String.toList_append]
  rw [empty] at colon
  cases colon

end Clause

/-! ## Expressions -/

section Expression

variable {raw : String} {e : Expression} {pieces : List String}

/-- Every clause of a filter was read in a piece of it. -/
theorem exists_reads_of_mem (read : Expression.parse raw = .ok e) {c : Clause} (member : c ∈ e.clauses) :
    ∃ s ∈ segments raw, ∃ q, Reads s c q := by
  have each := (parse_eq_ok_iff_forall raw e).mp read
  generalize segments raw = list, e.clauses = clauses at each member
  induction each with
  | nil => cases member
  | @cons s d rest others first _ ih =>
    rcases List.mem_cons.mp member with rfl | later
    · exact ⟨s, List.mem_cons_self, parseSegment_eq_ok_iff_reads.mp first⟩
    · obtain ⟨t, found, reads⟩ := ih later
      exact ⟨t, List.mem_cons_of_mem s found, reads⟩

/-- A filter with clauses is written as pieces that are its clauses. -/
theorem divided_render (read : Expression.parse raw = .ok e) (clauses : e.clauses ≠ []) :
    Divided e.render (e.clauses.map Clause.render) := by
  obtain ⟨pieces, divided⟩ := exists_divided raw
  refine ⟨rfl, by rwa [ne_eq, List.map_eq_nil_iff], List.forall_mem_map.mpr ?_⟩
  intro c member separator
  obtain ⟨s, segment, q, reads⟩ := exists_reads_of_mem read member
  rw [divided.segments_eq, filled, List.mem_filter] at segment
  exact divided.bare s segment.1 (reads.mem_of_mem_render separator)

theorem segments_render (read : Expression.parse raw = .ok e) :
    segments e.render = e.clauses.map Clause.render := by
  by_cases clauses : e.clauses = []
  · rw [Expression.render, clauses]
    rfl
  · rw [(divided_render read clauses).segments_eq, filled, List.filter_eq_self]
    refine List.forall_mem_map.mpr fun c _ => ?_
    exact decide_eq_true (render_ne_empty c)

/-- What is written for a filter is the filter again. -/
theorem parse_render (read : Expression.parse raw = .ok e) : Expression.parse e.render = .ok e := by
  rw [parse_eq_ok_iff_forall, segments_render read, List.forall₂_map_left_iff, List.forall₂_same]
  intro c member
  obtain ⟨s, -, q, reads⟩ := exists_reads_of_mem read member
  exact parseSegment_eq_ok_iff_reads.mpr ⟨_, reads.render⟩

/-- Clauses are written as the pieces they were read in exactly if all of these are tidy. -/
theorem map_render_eq_iff {clauses : List Clause}
    (each : List.Forall₂ (fun s c => parseSegment s = .ok c) pieces clauses) :
    clauses.map Clause.render = pieces ↔ ∀ piece ∈ pieces, Tidy piece := by
  induction each with
  | nil => simp
  | cons first _ ih =>
    obtain ⟨q, reads⟩ := parseSegment_eq_ok_iff_reads.mp first
    rw [List.map_cons, List.cons.injEq, reads.render_eq_iff, ih, List.forall_mem_cons]

/-- A filter with clauses is written as it was read exactly if it has no empty piece and no text behind
`true:`. -/
theorem render_eq_iff (read : Expression.parse raw = .ok e) (divided : Divided raw pieces)
    (clauses : e.clauses ≠ []) : e.render = raw ↔ ∀ piece ∈ pieces, piece ≠ "" ∧ Tidy piece := by
  have each := (parse_eq_ok_iff_forall raw e).mp read
  rw [divided.segments_eq] at each
  -- Only where no piece is empty are the segments the pieces.
  have whole : (∀ piece ∈ pieces, piece ≠ "") → filled pieces = pieces := by
    intro full
    exact List.filter_eq_self.mpr fun piece member => decide_eq_true (full piece member)
  constructor
  · intro same
    have written : Divided raw (e.clauses.map Clause.render) := same ▸ divided_render read clauses
    obtain rfl := divided.unique written
    have full : ∀ piece ∈ e.clauses.map Clause.render, piece ≠ "" :=
      List.forall_mem_map.mpr fun c _ => render_ne_empty c
    rw [whole full] at each
    have tidy := (map_render_eq_iff each).mp rfl
    exact fun piece member => ⟨full piece member, tidy piece member⟩
  · intro normal
    rw [whole fun piece member => (normal piece member).1] at each
    have same := (map_render_eq_iff each).mpr fun piece member => (normal piece member).2
    rw [Expression.render, same, divided.joined]

/-- What is written for a filter that was read is read as the same filter, with the same conditions,
patterns and marks in the same order. It is the filter as it was read exactly if that is empty, or has no
empty piece and no text behind `true:`. -/
theorem render_normalizes (raw : String) (e : Expression) (read : Expression.parse raw = .ok e) :
    Expression.parse e.render = .ok e ∧
    ∃ pieces, Divided raw pieces ∧ (∀ other, Divided raw other → other = pieces) ∧
      (e.render = raw ↔ raw = "" ∨ ∀ piece ∈ pieces, piece ≠ "" ∧ Tidy piece) := by
  obtain ⟨pieces, divided⟩ := exists_divided raw
  refine ⟨parse_render read, pieces, divided, fun other divided' => divided'.unique divided, ?_⟩
  by_cases clauses : e.clauses = []
  · -- All pieces are empty, and nothing is written.
    have each := (parse_eq_ok_iff_forall raw e).mp read
    rw [clauses, List.forall₂_nil_right_iff, divided.segments_eq, filled, List.filter_eq_nil_iff] at each
    obtain ⟨piece, member⟩ := List.exists_mem_of_ne_nil pieces divided.nonempty
    have empty : piece = "" := by simpa using each piece member
    have untidy : ¬ ∀ piece ∈ pieces, piece ≠ "" ∧ Tidy piece := fun full => (full piece member).1 empty
    rw [Expression.render, clauses, or_iff_left untidy]
    exact eq_comm
  · rw [render_eq_iff read divided clauses]
    refine (or_iff_right ?_).symm
    rintro rfl
    exact clauses (List.forall₂_nil_left_iff.mp ((parse_eq_ok_iff_forall "" e).mp read))

end Expression

/-! ## A filter that is not written as it was read -/

/-- A filter with an empty piece and a text behind `true:`. -/
def looseFilter : String := "contains:a~~!true:x~regex:a|b"

def looseExpression : Expression :=
  ⟨[⟨.contains "a", false⟩, ⟨.always, true⟩,
    ⟨.regex "a|b" (.alt (.char (.code .exact 97)) (.char (.code .exact 98))), false⟩]⟩

theorem parse_looseFilter : Expression.parse looseFilter = .ok looseExpression := by
  have cut : segments looseFilter = ["contains:a", "!true:x", "regex:a|b"] := by decide
  have alternatives : Pattern.parse "a|b"
      = .ok (.alt (.char (.code .exact 97)) (.char (.code .exact 98))) := by decide +kernel
  rw [parse_eq_ok_iff_forall, cut]
  refine .cons ?_ (.cons ?_ (.cons ?_ .nil)) <;> rw [parseSegment_eq_ok_iff_reads]
  · exact ⟨"a", by decide, rfl, by simp⟩
  · exact ⟨"x", by decide, rfl, by simp⟩
  · refine ⟨"a|b", by decide, rfl, ?_⟩
    rintro text node ⟨⟩
    exact alternatives

/-- The loose filter is written without its empty piece and without the text behind `true:`. -/
theorem render_normalizes_loose :
    Expression.parse looseFilter = .ok looseExpression ∧
    Expression.parse "contains:a~!true:~regex:a|b" = .ok looseExpression ∧
    ∃ pieces, Divided looseFilter pieces ∧ ¬ ∀ piece ∈ pieces, piece ≠ "" ∧ Tidy piece := by
  have written : looseExpression.render = "contains:a~!true:~regex:a|b" := by decide
  obtain ⟨again, pieces, divided, -, same⟩ := render_normalizes looseFilter looseExpression parse_looseFilter
  rw [written] at again same
  refine ⟨parse_looseFilter, again, pieces, divided, fun normal => ?_⟩
  exact absurd (same.mpr (.inr normal)) (by decide)

end FeedSieve.Filter
