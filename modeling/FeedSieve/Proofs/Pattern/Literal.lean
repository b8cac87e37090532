import FeedSieve.Pattern.Match
import FeedSieve.Proofs.Pattern.Step

/-!
# Patterns that are texts

A pattern without operators is read as the sequence of its characters, which may be pinned to the start and
to the end of a text (`parse_pinned`). It matches where these characters stand (`matchesAt_pinned`).
-/
namespace FeedSieve.Pattern

/-- The characters that do not stand for themselves. -/
def operators : List Char :=
  ['.', '^', '$', '*', '+', '?', '\x7b', '\x7d', '[', ']', '\\', '|', '(', ')']

def Literal (s : List Char) : Prop := ∀ c ∈ s, c ∉ operators

instance (s : List Char) : Decidable (Literal s) := List.decidableBAll (· ∉ operators) s

theorem literal_cons {c : Char} {s : List Char} : Literal (c :: s) ↔ c ∉ operators ∧ Literal s :=
  List.forall_mem_cons

/-- A text as a pattern, perhaps pinned to the start and to the end of what it is searched in. -/
def pinned (front back : Bool) (s : List Char) : List Char :=
  (if front then ['^'] else []) ++ (s ++ if back then ['\\', 'Z'] else [])

def Node.literal (c : Char) : Node := .char (.code .exact c.toNat)

def pinnedNodes (front back : Bool) (s : List Char) : List Node :=
  (if front then [.anchor .textStart] else []) ++
    (s.map Node.literal ++ if back then [.anchor .textEnd] else [])

/-! ## Reading -/

namespace Parser

section Runs

variable {α β : Type} {r : Reader} {rest : List Char}

/-- After a first step that is done, a composed step goes on with the second. -/
theorem bind_of_ok {step : Parser α} {second : α → Parser β} {a : α} {r' : Reader}
    (done : step r = .ok (a, r')) : (step >>= second) r = second a r' := by
  change (step r >>= fun result => second result.1 result.2) = _
  rw [done]
  rfl

theorem peek_eq (r : Reader) : peek r = .ok (next r.rest, r) := by
  rw [peek, bind_of_ok (r := r) rfl]
  cases r.rest with
  | nil => rfl
  | cons c more =>
    by_cases backslash : c = '\\'
    · subst backslash
      cases more <;> rfl
    · simp only [next, backslash, false_implies, implies_true]
      rfl

/-- A token is passed unless a backslash is all that follows it. -/
theorem advance_eq {t : Token} (found : next r.rest = some t) (behind : r.rest.drop t.chars.length = rest)
    (whole : rest ≠ ['\\']) :
    advance r = .ok ((), { r with rest, position := r.position + t.chars.length }) := by
  have checked : (liftM (checkToken rest (r.position + t.chars.length)) : Parser Unit) r = .ok ((), r) := by
    rw [checkToken, if_neg whole]
    rfl
  rw [advance, bind_of_ok (peek_eq r), found]
  dsimp only
  rw [bind_of_ok (r := r) rfl, behind, bind_of_ok checked]
  rfl

/-! ### Sequences -/

variable {fuel : Nat} {first : Bool} {done : List Piece} {c : Char}

theorem next_plain (plain : c ≠ '\\') (rest : List Char) : next (c :: rest) = some (.plain c) := by
  rw [next]
  rintro d tail rfl
  exact absurd rfl plain

/-- A sequence ends with the text. -/
theorem sequence_end (f : FlagSet) (ended : r.rest = []) :
    sequence (fuel + 1) first f done r = .ok (sequenceOf done, r) := by
  have peeked := peek_eq r
  rw [ended] at peeked
  rw [sequence, bind_of_ok (r := r) rfl, bind_of_ok peeked]
  rfl

/-- Without flags a character that opens nothing and repeats nothing is a part of the sequence. -/
theorem sequence_single (inert : c ∉ ['\\', '|', ')', '[', '(', '?', '*', '+', '\x7b'])
    (starts : r.rest = c :: rest) (whole : rest ≠ ['\\']) :
    sequence (fuel + 1) first [] done r
      = sequence fuel first [] (single [] c :: done) { r with rest, position := r.position + 1 } := by
  simp only [List.mem_cons, List.not_mem_nil, or_false, not_or] at inert
  obtain ⟨backslash, bar, close, bracket, paren, question, star, plus, brace⟩ := inert
  have found : next r.rest = some (.plain c) := by rw [starts, next_plain backslash]
  have passed := advance_eq found (by rw [starts]; rfl) whole
  have unrepeated : repetition c = pure none := by
    rw [repetition, if_neg question, if_neg star, if_neg plus, if_neg brace]
  have peeked := peek_eq r
  rw [found] at peeked
  rw [sequence, bind_of_ok (r := r) rfl, bind_of_ok peeked]
  simp only [Token.plain.injEq, bar, close, or_self, if_false, List.not_mem_nil, false_and]
  rw [bind_of_ok passed]
  rw [unrepeated]
  rfl

/-- An escape that stands for the end of the text is a part of the sequence. -/
theorem sequence_textEnd (starts : r.rest = '\\' :: 'Z' :: rest) (whole : rest ≠ ['\\']) :
    sequence (fuel + 1) first [] done r
      = sequence fuel first [] (⟨.anchor .textEnd, .anchor⟩ :: done)
        { r with rest, position := r.position + 2 } := by
  have found : next r.rest = some (.escaped 'Z') := by rw [starts]; rfl
  have passed := advance_eq found (by rw [starts]; rfl) whole
  have peeked := peek_eq r
  rw [found] at peeked
  rw [sequence, bind_of_ok (r := r) rfl, bind_of_ok peeked]
  simp only [reduceCtorEq, or_self, if_false, List.not_mem_nil, false_and]
  rw [bind_of_ok passed]
  rfl

theorem single_literal (literal : c ∉ operators) : single [] c = ⟨.literal c, .item⟩ := by
  simp only [operators, List.mem_cons, List.not_mem_nil, or_false, not_or] at literal
  rw [single, if_neg literal.1, if_neg literal.2.1, if_neg literal.2.2.1]
  rfl

/-- What is left of a literal text before other text is not a lone backslash. -/
theorem whole_append {s tail : List Char} (literal : Literal s) (whole : tail ≠ ['\\']) :
    s ++ tail ≠ ['\\'] := by
  cases s with
  | nil => exact whole
  | cons c s =>
    intro same
    obtain ⟨rfl, -⟩ := List.cons.inj same
    exact absurd (literal_cons.mp literal).1 (by decide)

/-- The characters of a literal text are parts of the sequence, one by one. -/
theorem sequence_literals {s tail : List Char} (literal : Literal s) (whole : tail ≠ ['\\'])
    (starts : r.rest = s ++ tail) :
    sequence (fuel + s.length) first [] done r
      = sequence fuel first [] ((s.map fun c => ⟨Node.literal c, .item⟩).reverse ++ done)
        { r with rest := tail, position := r.position + s.length } := by
  induction s generalizing r done with
  | nil =>
    rw [List.nil_append] at starts
    rw [← starts]
    rfl
  | cons c s ih =>
    obtain ⟨here, later⟩ := literal_cons.mp literal
    have inert : c ∉ ['\\', '|', ')', '[', '(', '?', '*', '+', '\x7b'] := fun member =>
      here ((by decide : ['\\', '|', ')', '[', '(', '?', '*', '+', '\x7b'] ⊆ operators) member)
    rw [List.length_cons, ← Nat.add_assoc, sequence_single inert starts (whole_append later whole),
      single_literal here, ih later rfl, List.map_cons, List.reverse_cons, List.append_assoc,
      List.singleton_append, Nat.add_right_comm r.position]
    rfl

/-- The sequence ends with the pin to the end of the text, if there is one. -/
theorem sequence_back {back : Bool} (starts : r.rest = if back then ['\\', 'Z'] else [])
    (enough : r.rest.length < fuel) :
    ∃ position, sequence fuel first [] done r
      = .ok (sequenceOf ((if back then [⟨.anchor .textEnd, .anchor⟩] else []) ++ done),
        { r with rest := [], position }) := by
  cases back with
  | false =>
    obtain ⟨more, rfl⟩ : ∃ more, fuel = more + 1 := ⟨fuel - 1, by omega⟩
    refine ⟨r.position, ?_⟩
    rw [sequence_end [] starts]
    obtain ⟨⟩ := r
    cases starts
    rfl
  | true =>
    have length : r.rest.length = 2 := congrArg List.length starts
    obtain ⟨more, rfl⟩ : ∃ more, fuel = more + 2 := ⟨fuel - 2, by omega⟩
    refine ⟨r.position + 2, ?_⟩
    have pin : r.rest = ['\\', 'Z'] := starts
    rw [sequence_textEnd pin (by simp), sequence_end [] rfl]
    rfl

/-- A pinned text is read as its parts. -/
theorem sequence_pinned {s : List Char} (literal : Literal s) {front back : Bool}
    (starts : r.rest = pinned front back s) (enough : r.rest.length < fuel) :
    ∃ position, sequence fuel first [] [] r
      = .ok (join (pinnedNodes front back s), { r with rest := [], position }) := by
  have whole : (if back then ['\\', 'Z'] else []) ≠ ['\\'] := by cases back <;> simp
  have parts (pins : List Piece) : sequenceOf
        ((if back then [⟨.anchor .textEnd, .anchor⟩] else [])
          ++ ((s.map fun c => ⟨Node.literal c, .item⟩).reverse ++ pins))
      = join (pins.reverse.map Piece.node
          ++ (s.map Node.literal ++ if back then [.anchor .textEnd] else [])) := by
    cases back <;> simp [sequenceOf, Function.comp_def]
  rw [starts] at enough
  simp only [pinned, List.length_append] at enough
  -- The mark in front and each literal take one step of the fuel.
  cases front with
  | false =>
    obtain ⟨more, rfl⟩ : ∃ more, fuel = more + s.length := ⟨fuel - s.length, by omega⟩
    have room : (if back then ['\\', 'Z'] else []).length < more := by omega
    rw [sequence_literals literal whole starts]
    obtain ⟨position, ended⟩ := sequence_back (r := { r with
      rest := if back then ['\\', 'Z'] else [], position := r.position + s.length }) rfl room
    exact ⟨position, ended.trans (by rw [parts]; rfl)⟩
  | true =>
    have one : (if true then ['^'] else []).length = 1 := rfl
    obtain ⟨more, rfl⟩ : ∃ more, fuel = more + s.length + 1 := ⟨fuel - 1 - s.length, by omega⟩
    have left : s ++ (if back then ['\\', 'Z'] else []) ≠ ['\\'] := whole_append literal whole
    have room : (if back then ['\\', 'Z'] else []).length < more := by omega
    rw [sequence_single (by decide) starts left, sequence_literals literal whole rfl]
    obtain ⟨position, ended⟩ := sequence_back (r := { r with
      rest := if back then ['\\', 'Z'] else [], position := r.position + 1 + s.length }) rfl room
    exact ⟨position, ended.trans (by rw [parts]; rfl)⟩

/-- At the end of the text there are no more alternatives. -/
theorem moreAlternatives_end (top : Bool) (f : FlagSet) (node : Node) (ended : r.rest = []) :
    moreAlternatives (fuel + 1) top f node r = .ok (node, r) := by
  have peeked := peek_eq r
  rw [ended] at peeked
  have absent : accept '|' r = .ok (false, r) := by
    rw [accept, bind_of_ok peeked]
    rfl
  rw [moreAlternatives, bind_of_ok absent]
  rfl

theorem alternatives_pinned {s : List Char} (literal : Literal s) {front back : Bool}
    (starts : r.rest = pinned front back s) (enough : r.rest.length + 1 < fuel) :
    ∃ position, alternatives fuel true [] r
      = .ok (join (pinnedNodes front back s), { r with rest := [], position }) := by
  obtain ⟨more, rfl⟩ : ∃ more, fuel = more + 2 := ⟨fuel - 2, by omega⟩
  have room : r.rest.length < more + 1 := by omega
  obtain ⟨position, read⟩ := sequence_pinned literal starts room
  refine ⟨position, ?_⟩
  rw [alternatives, bind_of_ok read, moreAlternatives_end true [] _ rfl]

end Runs

end Parser

/-- Anchors and characters in sequence have no defect. -/
theorem defect?_join {template : Bool} {ns : List Node} (sound : ∀ n ∈ ns, n.defect? template = none) :
    (Parser.join ns).defect? template = none := by
  induction ns with
  | nil => rfl
  | cons n rest ih =>
    obtain ⟨here, later⟩ := List.forall_mem_cons.mp sound
    cases rest with
    | nil => exact here
    | cons m more =>
      change (n.defect? template <|> (Parser.join (m :: more)).defect? template) = none
      rw [here, ih later]
      rfl

/-- The reader with which the reading of a text begins. -/
def opened (s : List Char) : Reader := ⟨s, 0, [], 1, [], [], none, []⟩

theorem pattern_pinned {s : List Char} (literal : Literal s) (front back : Bool) :
    ∃ r, Parser.pattern (opened (pinned front back s))
      = .ok ((Parser.join (pinnedNodes front back s), []), r) := by
  have whole : pinned front back s ≠ ['\\'] := by
    cases front with
    | true => simp [pinned]
    | false => exact Parser.whole_append (s := s) literal (by cases back <;> simp)
  have checked : (liftM (Parser.checkToken (opened (pinned front back s)).rest
        (opened (pinned front back s)).position) : Parser Unit) (opened (pinned front back s))
      = .ok ((), opened (pinned front back s)) := by
    rw [Parser.checkToken, opened, if_neg whole]
    rfl
  have room : (opened (pinned front back s)).rest.length + 1
      < 3 * (opened (pinned front back s)).rest.length + 3 := by omega
  obtain ⟨position, read⟩ := Parser.alternatives_pinned literal rfl room
  refine ⟨{ opened (pinned front back s) with rest := [], position }, ?_⟩
  rw [Parser.pattern, Parser.bind_of_ok (r := opened (pinned front back s)) rfl,
    Parser.bind_of_ok checked, Parser.bind_of_ok read]
  rfl

/-- A literal text, pinned or not, is read as the sequence of its parts. -/
theorem parse_pinned {s : List Char} (literal : Literal s) (front back : Bool) :
    parse (String.ofList (pinned front back s)) = .ok (Parser.join (pinnedNodes front back s)) := by
  obtain ⟨r, read⟩ := pattern_pinned literal front back
  have sound : ∀ n ∈ pinnedNodes front back s, n.defect? false = none := by
    intro n member
    simp only [pinnedNodes, List.mem_append, List.mem_map] at member
    rcases member with start | ⟨c, -, rfl⟩ | stop
    · split at start
      · rw [List.mem_singleton.mp start]
        rfl
      · cases start
    · rfl
    · split at stop
      · rw [List.mem_singleton.mp stop]
        rfl
      · cases stop
  have run : Parser.pattern.run ⟨pinned front back s, 0, [], 1, [], [], none, []⟩ = _ := read
  have flags : decide ('t' ∈ ([] : FlagSet)) = false := by decide
  rw [parse, String.toList_ofList, run]
  dsimp only
  rw [flags, defect?_join sound]

/-! ## Matching -/

/-- Only the character itself passes its test. -/
theorem passes_code_iff (c d : Char) : (CharTest.code .exact c.toNat).passes d = true ↔ d = c := by
  simp only [CharTest.code, CharTest.passes, SetItem.mem, Folding.variants, List.any_cons, List.any_nil,
    Bool.or_false, Bool.bne_false, Bool.and_eq_true, decide_eq_true_eq, ← Char.toNat_inj]
  omega

theorem run_join_cons (n : Node) (ns : List Node) (p : Place) (k : Continuation) :
    (Parser.join (n :: ns)).run p k = n.run p fun q => (Parser.join ns).run q k := by
  cases ns <;> rfl

theorem run_join_append (ms ns : List Node) (p : Place) (k : Continuation) :
    (Parser.join (ms ++ ns)).run p k = (Parser.join ms).run p fun q => (Parser.join ns).run q k := by
  induction ms generalizing p with
  | nil => rfl
  | cons m ms ih =>
    rw [List.cons_append, run_join_cons, run_join_cons]
    exact congrArg (m.run p) (funext fun q => ih q)

theorem forward_succ {p : Place} {c : Char} {rest : List Char} (after : p.after = c :: rest) (n : Nat) :
    p.forward (n + 1) = Place.forward ⟨c :: p.before, p.position + 1, rest, p.groups⟩ n := by
  simp only [Place.forward, after, List.take_succ_cons, List.drop_succ_cons, List.reverse_cons,
    List.append_assoc, List.singleton_append, List.length_cons, Nat.add_right_comm p.position]
  rfl

/-- Characters in sequence match where they stand, and lead behind themselves. -/
theorem run_literals (s : List Char) (p : Place) (k : Continuation) :
    (Parser.join (s.map Node.literal)).run p k
      = if s.isPrefixOf p.after then k (p.forward s.length) else none := by
  induction s generalizing p with
  | nil => rfl
  | cons c s ih =>
    rw [List.map_cons, run_join_cons, Node.literal, Node.run, Place.step?]
    cases after : p.after with
    | nil => rfl
    | cons d rest =>
      have same := passes_code_iff c d
      dsimp only
      by_cases here : d = c
      · subst here
        rw [if_pos (same.mpr rfl), Option.bind_some, ih, List.length_cons, forward_succ after,
          List.isPrefixOf, beq_self_eq_true, Bool.true_and]
      · have differs : (c == d) = false := beq_eq_false_iff_ne.mpr (Ne.symm here)
        rw [if_neg (fun passed => here (same.mp passed)), List.isPrefixOf, differs]
        rfl

/-- A pinned text matches where it stands, from the start and to the end if it is pinned there. -/
theorem matchesAt_pinned (front back : Bool) (s : List Char) (p : Place) :
    (Parser.join (pinnedNodes front back s)).matchesAt p = true ↔
      ∃ rest, p.after = s ++ rest ∧ (front = true → p.before = []) ∧ (back = true → rest = []) := by
  have stop (q : Place) : ((Parser.join (if back then [.anchor .textEnd] else [])).run q some).isSome = true
      ↔ (back = true → q.after = []) := by
    cases back <;> simp [Parser.join, Node.run, Place.holds]
  have start : (Parser.join (pinnedNodes front back s)).run p some
      = if front = true → p.before = [] then
          (Parser.join (s.map Node.literal ++ if back then [.anchor .textEnd] else [])).run p some
        else none := by
    cases front with
    | false => simp [pinnedNodes]
    | true => simp [pinnedNodes, run_join_cons, Node.run, Place.holds]
  rw [Node.matchesAt, start]
  by_cases begins : front = true → p.before = []
  · rw [if_pos begins, run_join_append, run_literals]
    by_cases here : s.isPrefixOf p.after = true
    · obtain ⟨rest, after⟩ := List.isPrefixOf_iff_prefix.mp here
      have left : (p.forward s.length).after = rest := by
        rw [Place.forward, ← after, List.drop_left]
      rw [if_pos here, stop, left]
      constructor
      · intro ends
        exact ⟨rest, after.symm, begins, ends⟩
      · rintro ⟨rest', after', -, ends⟩
        obtain rfl := List.append_cancel_left (after.trans after')
        exact ends
    · rw [if_neg here]
      constructor
      · intro none_
        cases none_
      · rintro ⟨rest, after, -⟩
        exact absurd (List.isPrefixOf_iff_prefix.mpr ⟨rest, after.symm⟩) here
  · rw [if_neg begins]
    constructor
    · intro none_
      cases none_
    · rintro ⟨rest, -, begins', -⟩
      exact absurd begins' begins

end FeedSieve.Pattern
