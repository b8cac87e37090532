import FeedSieve.Proofs.Filter.Rendering

/-!
# What filters mean

A condition is a relation between a pattern and a title: how the title is put together, or where in it the
pattern matches. A filter passes the titles that stand in the relation of each of its clauses, or outside
of it where the clause is marked. Main statement: `accepts_meaning`.
-/
namespace FeedSieve

/-- The place between two parts of a text. -/
def Pattern.Place.between (u v : String) : Place := ⟨u.toList.reverse, u.length, v.toList, []⟩

namespace Filter

/-- What a condition says of a title. -/
def Condition.Means : Condition → String → Prop
  | .equals text, title => title = text
  | .startsWith text, title => ∃ v, title = text ++ v
  | .endsWith text, title => ∃ u, title = u ++ text
  | .contains text, title => ∃ u v, title = u ++ text ++ v
  | .always, _ => True
  | .regex text _, title => ∃ node, Pattern.parse text = .ok node ∧
      ∃ u v, title = u ++ v ∧ node.matchesAt (.between u v) = true

/-! ## Parts of a text -/

theorem isPart_eq_true_iff (part s : List Char) : isPart part s = true ↔ part <:+: s := by
  induction s with
  | nil => simp [isPart]
  | cons c rest ih =>
    rw [isPart, Bool.or_eq_true, ih, List.isPrefixOf_iff_prefix, List.infix_cons_iff]

/-- Every list of characters is that of a text. -/
theorem toList_surjective : Function.Surjective String.toList :=
  fun letters => ⟨String.ofList letters, String.toList_ofList⟩

theorem prefix_iff_exists (text title : String) :
    text.toList <+: title.toList ↔ ∃ v, title = text ++ v := by
  rw [List.IsPrefix, toList_surjective.exists]
  simp only [← String.toList_append, String.toList_inj, eq_comm]

theorem suffix_iff_exists (text title : String) :
    text.toList <:+ title.toList ↔ ∃ u, title = u ++ text := by
  rw [List.IsSuffix, toList_surjective.exists]
  simp only [← String.toList_append, String.toList_inj, eq_comm]

theorem infix_iff_exists (text title : String) :
    text.toList <:+: title.toList ↔ ∃ u v, title = u ++ text ++ v := by
  simp only [List.IsInfix, toList_surjective.exists, ← String.toList_append, String.toList_inj, eq_comm]

/-! ## Where a pattern matches -/

/-- A search goes through the places of the rest of a text. -/
theorem found_iff (node : Pattern.Node) (before : List Char) (position : Nat) (after : List Char) :
    node.found before position after = true ↔
      ∃ u v, after = u ++ v ∧
        node.matchesAt ⟨u.reverse ++ before, position + u.length, v, []⟩ = true := by
  induction after generalizing before position with
  | nil =>
    rw [Pattern.Node.found]
    constructor
    · intro here
      exact ⟨[], [], rfl, here⟩
    · rintro ⟨u, v, cut, here⟩
      obtain ⟨rfl, rfl⟩ := List.append_eq_nil_iff.mp cut.symm
      exact here
  | cons c rest ih =>
    rw [Pattern.Node.found, Bool.or_eq_true, ih]
    -- A character that is passed has moved before the place: both sides name the same place.
    have shift : ∀ u v, node.matchesAt ⟨u.reverse ++ c :: before, position + 1 + u.length, v, []⟩
        = node.matchesAt ⟨(c :: u).reverse ++ before, position + (c :: u).length, v, []⟩ := by
      intro u v
      rw [List.reverse_cons, List.append_assoc, List.singleton_append, List.length_cons, Nat.add_assoc,
        Nat.add_comm 1]
    constructor
    · rintro (here | ⟨u, v, rfl, later⟩)
      · exact ⟨[], c :: rest, rfl, here⟩
      · exact ⟨c :: u, v, rfl, (shift u v).symm.trans later⟩
    · rintro ⟨u, v, cut, found⟩
      cases u with
      | nil =>
        obtain rfl : c :: rest = v := cut
        exact .inl found
      | cons d u =>
        obtain ⟨rfl, rfl⟩ := List.cons.inj cut
        exact .inr ⟨u, v, rfl, (shift u v).trans found⟩

/-- A pattern occurs in a title if it matches between two parts of it. -/
theorem occursIn_iff (node : Pattern.Node) (title : String) :
    node.occursIn title = true ↔ ∃ u v, title = u ++ v ∧ node.matchesAt (.between u v) = true := by
  simp only [Pattern.Node.occursIn, found_iff, toList_surjective.exists, ← String.toList_append,
    String.toList_inj, List.append_nil, Nat.zero_add, String.length_toList, Pattern.Place.between]

/-! ## Conditions and clauses -/

/-- A condition whose pattern could be read holds for the titles that it means. -/
theorem holds_iff_means {c : Condition}
    (compiled : ∀ text node, c = .regex text node → Pattern.parse c.text = .ok node) (title : String) :
    c.holds title = true ↔ c.Means title := by
  cases c with
  | equals text => exact beq_iff_eq
  | startsWith text =>
    rw [Condition.holds, List.isPrefixOf_iff_prefix, prefix_iff_exists, Condition.Means]
  | endsWith text =>
    rw [Condition.holds, List.isSuffixOf_iff_suffix, suffix_iff_exists, Condition.Means]
  | contains text => rw [Condition.holds, isPart_eq_true_iff, infix_iff_exists, Condition.Means]
  | always => simp [Condition.holds, Condition.Means]
  | regex text node =>
    have read : Pattern.parse text = .ok node := compiled text node rfl
    simp [Condition.holds, occursIn_iff, Condition.Means, read]

/-- A clause that was read accepts the titles its condition means, or the others if it is marked. -/
theorem Reads.accepts_iff {s q : String} {c : Clause} (h : Reads s c q) (title : String) :
    c.accepts title = true ↔ (c.condition.Means title ↔ c.negated = false) := by
  rw [Clause.accepts, bne_iff_ne, ← holds_iff_means h.render.compiled]
  cases c.condition.holds title <;> cases c.negated <;> simp

/-! ## Marks -/

section Mark

variable {s q : String} {c : Clause}

/-- A mark in front turns a clause around, and nothing else. -/
theorem reads_marked_iff (s q : String) (condition : Condition) :
    Reads ("!" ++ s) ⟨condition, true⟩ q ↔ Reads s ⟨condition, false⟩ q := by
  have written : "!" ++ s = mark true ++ condition.name ++ ":" ++ q ↔
      s = mark false ++ condition.name ++ ":" ++ q := by
    rw [← String.toList_inj, ← String.toList_inj]
    simp [mark, String.toList_append]
  exact ⟨fun h => ⟨written.mp h.written, h.text, h.compiled⟩,
    fun h => ⟨written.mpr h.written, h.text, h.compiled⟩⟩

theorem Reads.negated_eq (h : Reads s c q) : c.negated = isMarked s := h.cut.body.1.symm

/-- A segment with a mark in front is a marked clause exactly if it is that clause without the mark. -/
theorem parseSegment_marked_iff (s : String) (c : Clause) :
    parseSegment ("!" ++ s) = .ok c ↔ c.negated = true ∧ parseSegment s = .ok ⟨c.condition, false⟩ := by
  obtain ⟨condition, negated⟩ := c
  simp only [parseSegment_eq_ok_iff_reads]
  constructor
  · rintro ⟨q, reads⟩
    obtain rfl : negated = true := by
      rw [show negated = isMarked ("!" ++ s) from reads.negated_eq]
      simp [isMarked, String.toList_append]
    exact ⟨rfl, q, (reads_marked_iff s q condition).mp reads⟩
  · rintro ⟨rfl, q, reads⟩
    exact ⟨q, (reads_marked_iff s q condition).mpr reads⟩

theorem negated_of_unmarked (unmarked : s.toList.head? ≠ some '!') (read : parseSegment s = .ok c) :
    c.negated = false := by
  obtain ⟨q, reads⟩ := parseSegment_eq_ok_iff_reads.mp read
  rw [reads.negated_eq]
  exact decide_eq_false unmarked

/-- Turning a clause around turns its answers around. -/
theorem accepts_negated (condition : Condition) (title : String) :
    Clause.accepts ⟨condition, true⟩ title = !Clause.accepts ⟨condition, false⟩ title := by
  simp [Clause.accepts]

end Mark

/-- A filter that was read passes exactly the titles for which the meaning of each of its clauses holds
where the clause is not marked and fails where it is. A segment without a mark can be read exactly if it
can be read with a mark in front, and then one accepts the titles that the other does not. -/
theorem accepts_meaning (raw s : String) :
    (∀ e, Expression.parse raw = .ok e → ∀ title,
      e.accepts title = true ↔ ∀ c ∈ e.clauses, c.condition.Means title ↔ c.negated = false) ∧
    (s.toList.head? ≠ some '!' →
      ((∃ d, parseSegment ("!" ++ s) = .ok d) ↔ ∃ c, parseSegment s = .ok c) ∧
      ∀ c d, parseSegment s = .ok c → parseSegment ("!" ++ s) = .ok d →
        ∀ title, d.accepts title = !c.accepts title) := by
  constructor
  · intro e read title
    rw [Expression.accepts, List.all_eq_true]
    refine forall₂_congr fun c member => ?_
    obtain ⟨segment, -, q, reads⟩ := exists_reads_of_mem read member
    exact reads.accepts_iff title
  · intro unmarked
    simp only [parseSegment_marked_iff]
    constructor
    · constructor
      · rintro ⟨d, -, read⟩
        exact ⟨_, read⟩
      · rintro ⟨c, read⟩
        obtain ⟨condition, negated⟩ := c
        obtain rfl : negated = false := negated_of_unmarked unmarked read
        exact ⟨⟨condition, true⟩, rfl, read⟩
    · rintro c ⟨condition, negated⟩ read ⟨rfl, read'⟩ title
      obtain rfl := Except.ok.inj (read.symm.trans read')
      exact accepts_negated condition title

/-- The loose filter passes what its clauses mean, and a mark turns its first clause around. -/
theorem accepts_meaning_loose :
    Expression.parse looseFilter = .ok looseExpression ∧
    (looseExpression.accepts "ab" = true ↔
      ∀ c ∈ looseExpression.clauses, c.condition.Means "ab" ↔ c.negated = false) ∧
    ∃ d, parseSegment "!contains:a" = .ok d ∧
      ∀ title, d.accepts title = !Clause.accepts ⟨.contains "a", false⟩ title := by
  have read : parseSegment "contains:a" = .ok ⟨.contains "a", false⟩ :=
    parseSegment_eq_ok_iff_reads.mpr ⟨"a", by decide, rfl, by simp⟩
  obtain ⟨meaning, marked⟩ := accepts_meaning looseFilter "contains:a"
  obtain ⟨readable, complement⟩ := marked (by decide)
  obtain ⟨d, read'⟩ := readable.mpr ⟨_, read⟩
  exact ⟨parse_looseFilter, meaning _ parse_looseFilter "ab", d, read', complement _ d read read'⟩

end Filter

end FeedSieve
