import FeedSieve.Proofs.Traced
import FeedSieve.Sieve

/-!
# The grammar of clauses

A segment that can be cut is a mark or none, a name, the first colon and a text, in one way only. The name
and the text decide whether it is a clause; a segment that cannot be cut is misshapen. Main statement:
`parseSegment_exact`.
-/
namespace FeedSieve.Filter

/-- What stands in front of a clause. -/
def mark (negated : Bool) : String := if negated then "!" else ""

/-- The segment is the clause, written with the text behind its colon. -/
structure Reads (s : String) (c : Clause) (q : String) : Prop where
  written : s = mark c.negated ++ c.condition.name ++ ":" ++ q
  text : c.condition.text = if c.condition.name = "true" then "" else q
  compiled : ∀ text node, c.condition = .regex text node → Pattern.parse q = .ok node

/-- The segment is a mark or none, a name up to the first colon, and a text. -/
structure Cut (s : String) (negated : Bool) (name q : String) : Prop where
  written : s = mark negated ++ name ++ ":" ++ q
  uncolonned : ':' ∉ name.toList
  unmarked : name.toList.head? ≠ some '!'

/-- The segment begins with two marks or has no colon. -/
def Misshapen (s : String) : Prop := (∃ rest, s = "!!" ++ rest) ∨ ':' ∉ s.toList

/-- Reading the segment is refused with the segment and an error of this name. -/
def Raises (s kind : String) : Prop :=
  ∃ e, parseSegment s = .error e ∧ e.segment = s ∧ Failure.ofFilter e = .refused (.filter e) ∧
    (Refusal.filter e).name = kind

/-- Reading the segment ends with a fault. -/
def Stops (s : String) (f : Fault) : Prop :=
  ∃ e, parseSegment s = .error e ∧ Failure.ofFilter e = .fault f

/-! ## Marks -/

def isMarked (s : String) : Bool := s.toList.head? = some '!'

def behindMark (s : String) : List Char := if isMarked s then s.toList.tail else s.toList

theorem toList_eq_mark (s : String) : s.toList = (mark (isMarked s)).toList ++ behindMark s := by
  unfold behindMark isMarked
  cases letters : s.toList with
  | nil => simp [mark]
  | cons c rest => by_cases marked : c = '!' <;> simp [mark, marked]

theorem parse_eq (s : String) :
    Clause.parse s = if (behindMark s).head? = some '!' then .error .doubleNegation
      else match (behindMark s).dropWhile (· ≠ ':') with
        | [] => .error .noColon
        | _ :: pattern => (Condition.ofName (String.ofList ((behindMark s).takeWhile (· ≠ ':')))
            (String.ofList pattern)).map (⟨·, isMarked s⟩) := rfl

/-- Two marks in front are a mark and a mark behind it. -/
theorem head?_behindMark_iff (s : String) :
    (behindMark s).head? = some '!' ↔ ∃ rest, s = "!!" ++ rest := by
  constructor
  · intro second
    obtain ⟨rest, behind⟩ := List.head?_eq_some_iff.mp second
    have whole := toList_eq_mark s
    have marked : isMarked s = true := by
      cases first : isMarked s with
      | true => rfl
      | false =>
        have same : behindMark s = s.toList := by simp [behindMark, first]
        rw [same] at second
        exact first.symm.trans (decide_eq_true second)
    refine ⟨String.ofList rest, ?_⟩
    rw [← String.toList_inj, whole, marked, behind]
    simp [mark]
  · rintro ⟨rest, rfl⟩
    simp [behindMark, isMarked, String.toList_append]

theorem mem_behindMark_iff (s : String) : ':' ∈ behindMark s ↔ ':' ∈ s.toList := by
  have whole := toList_eq_mark s
  rw [whole, List.mem_append]
  cases isMarked s <;> simp [mark]

theorem misshapen_iff (s : String) :
    Misshapen s ↔ (behindMark s).head? = some '!' ∨ ':' ∉ behindMark s := by
  rw [Misshapen, head?_behindMark_iff, mem_behindMark_iff]

/-! ## Cutting -/

section Cut

variable {s name q : String} {negated : Bool}

theorem Cut.unmarked_body (h : Cut s negated name q) :
    (name.toList ++ ':' :: q.toList).head? ≠ some '!' := by
  have first := h.unmarked
  cases letters : name.toList with
  | nil => simp
  | cons c rest =>
    rw [letters] at first
    exact first

/-- A cut segment begins with its mark, and behind it stand the name, the colon and the text. -/
theorem Cut.body (h : Cut s negated name q) :
    isMarked s = negated ∧ behindMark s = name.toList ++ ':' :: q.toList := by
  have unmarked := h.unmarked_body
  have marked : isMarked s = negated := by
    rw [h.written, isMarked]
    cases negated with
    | true => simp [mark, String.toList_append]
    | false => simpa [mark, String.toList_append] using unmarked
  have whole := toList_eq_mark s
  have written := congrArg String.toList h.written
  rw [whole, marked, String.toList_append, String.toList_append, String.toList_append,
    List.append_assoc, List.append_assoc] at written
  exact ⟨marked, List.append_cancel_left written⟩

/-- The first colon is the one behind the name. -/
theorem span_body (absent : ':' ∉ name.toList) (rest : List Char) :
    (name.toList ++ ':' :: rest).takeWhile (· ≠ ':') = name.toList ∧
      (name.toList ++ ':' :: rest).dropWhile (· ≠ ':') = ':' :: rest := by
  have solid : ∀ c ∈ name.toList, decide (c ≠ ':') = true := by
    intro c member
    exact decide_eq_true fun same => absent (same ▸ member)
  rw [List.takeWhile_append_of_pos solid, List.dropWhile_append_of_pos solid]
  simp

/-- A segment can be cut in one way only. -/
theorem Cut.unique (h : Cut s negated name q) {negated' : Bool} {name' q' : String}
    (h' : Cut s negated' name' q') : negated = negated' ∧ name = name' ∧ q = q' := by
  obtain ⟨marked, body⟩ := h.body
  obtain ⟨marked', body'⟩ := h'.body
  have same := body.symm.trans body'
  have names := congrArg (List.takeWhile (· ≠ ':')) same
  have texts := congrArg (List.dropWhile (· ≠ ':')) same
  rw [(span_body h.uncolonned _).1, (span_body h'.uncolonned _).1, String.toList_inj] at names
  rw [(span_body h.uncolonned _).2, (span_body h'.uncolonned _).2, List.cons.injEq,
    String.toList_inj] at texts
  exact ⟨marked.symm.trans marked', names, texts.2⟩

/-- A segment can be cut unless it is misshapen. -/
theorem exists_cut_iff (s : String) : (∃ negated name q, Cut s negated name q) ↔ ¬ Misshapen s := by
  rw [misshapen_iff, not_or, Decidable.not_not]
  constructor
  · rintro ⟨negated, name, q, cut⟩
    rw [cut.body.2]
    exact ⟨cut.unmarked_body, by simp⟩
  · rintro ⟨unmarked, colon⟩
    obtain ⟨before, after, behind, absent⟩ := List.eq_append_cons_of_mem colon
    refine ⟨isMarked s, String.ofList before, String.ofList after, ?_, ?_, ?_⟩
    · rw [← String.toList_inj, toList_eq_mark s, behind]
      simp [String.toList_append]
    · rwa [String.toList_ofList]
    · rw [behind] at unmarked
      rw [String.toList_ofList]
      cases before with
      | nil => simp
      | cons c rest => exact unmarked

/-- A cut segment is read by its name and its text. -/
theorem parse_of_cut (h : Cut s negated name q) :
    Clause.parse s = (Condition.ofName name q).map (⟨·, negated⟩) := by
  obtain ⟨marked, body⟩ := h.body
  obtain ⟨before, after⟩ := span_body h.uncolonned q.toList
  rw [parse_eq, marked, body, if_neg h.unmarked_body, before, after]
  dsimp only
  rw [String.ofList_toList, String.ofList_toList]

/-- A misshapen segment is refused for its shape. -/
theorem parse_of_misshapen (h : Misshapen s) :
    Clause.parse s = .error .doubleNegation ∨ Clause.parse s = .error .noColon := by
  rw [parse_eq]
  by_cases doubled : (behindMark s).head? = some '!'
  · exact .inl (if_pos doubled)
  · have absent := ((misshapen_iff s).mp h).resolve_left doubled
    have solid : ∀ c ∈ behindMark s, decide (c ≠ ':') = true := by
      intro c member
      exact decide_eq_true fun same => absent (same ▸ member)
    have dropped : (behindMark s).dropWhile (· ≠ ':') = [] := by
      rw [← List.append_nil (behindMark s), List.dropWhile_append_of_pos solid, List.dropWhile_nil]
    rw [if_neg doubled, dropped]
    exact .inr rfl

end Cut

/-! ## Conditions -/

theorem name_mem (c : Condition) : c.name ∈ conditionNames := by
  cases c <;> simp [Condition.name, conditionNames]

/-- The names of conditions have no colon and no mark in front. -/
theorem names_cuttable :
    ∀ name ∈ conditionNames, ':' ∉ name.toList ∧ name.toList.head? ≠ some '!' := by decide

theorem cut_of_name {s name q : String} {negated : Bool} (known : name ∈ conditionNames)
    (written : s = mark negated ++ name ++ ":" ++ q) : Cut s negated name q :=
  ⟨written, (names_cuttable name known).1, (names_cuttable name known).2⟩

/-- A name and a text are the condition of that name with that text, which for `true` is dropped and for
`regex` is a pattern that can be read. -/
theorem ofName_eq_ok_iff (name q : String) (c : Condition) :
    Condition.ofName name q = .ok c ↔ c.name = name ∧ c.text = (if c.name = "true" then "" else q) ∧
      ∀ text node, c = .regex text node → Pattern.parse q = .ok node := by
  constructor
  · intro read
    unfold Condition.ofName at read
    split at read
    -- Only a pattern can be refused; the other conditions take any text.
    case h_6 =>
      split at read
      · rename_i node compiled
        cases read
        refine ⟨rfl, rfl, ?_⟩
        intro text other same
        cases same
        exact compiled
      · cases read
      · cases read
    case h_7 => cases read
    all_goals
      cases read
      exact ⟨rfl, rfl, by simp⟩
  · rintro ⟨rfl, text, compiled⟩
    cases c with
    | always => rfl
    | equals written =>
      obtain rfl : written = q := text
      rfl
    | startsWith written =>
      obtain rfl : written = q := text
      rfl
    | endsWith written =>
      obtain rfl : written = q := text
      rfl
    | contains written =>
      obtain rfl : written = q := text
      rfl
    | regex written node =>
      obtain rfl : written = q := text
      simp [Condition.ofName, Condition.name, compiled written node rfl]

/-- A name and a text are no condition if the name is unknown, or if the text should be a pattern and is
none. -/
theorem ofName_eq_error_iff (name q : String) (cause : ClauseError) :
    Condition.ofName name q = .error cause ↔
      (name ∉ conditionNames ∧ cause = .unknownCondition) ∨
      (name = "regex" ∧ ∃ e, Pattern.parse q = .error (.error e) ∧ cause = .badPattern q e) ∨
      (name = "regex" ∧ ∃ f, Pattern.parse q = .error (.fault f) ∧ cause = .fault f) := by
  unfold Condition.ofName
  split
  case h_6 => cases Pattern.parse q with
    | ok node => simp [conditionNames]
    | error refusal => cases refusal <;> simp [conditionNames, eq_comm]
  case h_7 equals startsWith endsWith contains always regex =>
    have unknown : name ∉ conditionNames := by
      intro known
      simp only [conditionNames, List.mem_cons, List.not_mem_nil, or_false] at known
      rcases known with same | same | same | same | same | same
      · exact equals same
      · exact startsWith same
      · exact endsWith same
      · exact contains same
      · exact always same
      · exact regex same
    have other : name ≠ "regex" := regex
    simp [unknown, other, eq_comm]
  all_goals simp [conditionNames]

/-! ## Errors -/

/-- The error of a segment is told by what reading the clause says, unless that is a fault. -/
theorem raises_iff (s kind : String) :
    Raises s kind ↔ ∃ cause, Clause.parse s = .error cause ∧ (∀ f, cause ≠ .fault f) ∧
      Refusal.filterName cause = kind := by
  unfold Raises parseSegment
  cases Clause.parse s with
  | ok c => simp
  | error cause =>
    constructor
    · rintro ⟨e, same, -, refused, name⟩
      cases same
      refine ⟨cause, rfl, ?_, name⟩
      rintro f rfl
      cases refused
    · rintro ⟨_, same, faultless, name⟩
      cases same
      refine ⟨⟨s, cause⟩, rfl, rfl, ?_, name⟩
      cases cause with
      | fault f => exact absurd rfl (faultless f)
      | _ => rfl

theorem stops_iff (s : String) (f : Fault) : Stops s f ↔ Clause.parse s = .error (.fault f) := by
  unfold Stops parseSegment
  cases Clause.parse s with
  | ok c => simp
  | error cause => cases cause <;> simp [Failure.ofFilter]

/-- A misshapen segment is refused for its syntax and for nothing else. -/
theorem raises_of_misshapen {s : String} (h : Misshapen s) (kind : String) :
    Raises s kind ↔ kind = "InvalidFilterSyntax" := by
  rw [raises_iff]
  rcases parse_of_misshapen h with doubled | colonless
  · simp [doubled, Refusal.filterName, eq_comm]
  · simp [colonless, Refusal.filterName, eq_comm]

section Cut

variable {s name q : String} {negated : Bool}

/-- A cut segment is refused for its name, or for its text if that should be a pattern. -/
theorem raises_of_cut (h : Cut s negated name q) (kind : String) :
    Raises s kind ↔ (name ∉ conditionNames ∧ kind = "InvalidFilterCondition") ∨
      (name = "regex" ∧ (∃ e, Pattern.parse q = .error (.error e)) ∧ kind = "InvalidFilterPattern") := by
  simp only [raises_iff, parse_of_cut h, Traced.map_eq_error_iff, ofName_eq_error_iff]
  constructor
  · rintro ⟨cause, ⟨unknown, rfl⟩ | ⟨regex, e, unread, rfl⟩ | ⟨-, f, -, rfl⟩, faultless, rfl⟩
    · exact .inl ⟨unknown, rfl⟩
    · exact .inr ⟨regex, ⟨e, unread⟩, rfl⟩
    · exact absurd rfl (faultless f)
  · rintro (⟨unknown, rfl⟩ | ⟨regex, ⟨e, unread⟩, rfl⟩)
    · exact ⟨.unknownCondition, .inl ⟨unknown, rfl⟩, by simp, rfl⟩
    · exact ⟨.badPattern q e, .inr (.inl ⟨regex, e, unread, rfl⟩), by simp, rfl⟩

/-- Only reading a pattern ends with a fault. -/
theorem stops_of_cut (h : Cut s negated name q) (f : Fault) :
    Stops s f ↔ name = "regex" ∧ Pattern.parse q = .error (.fault f) := by
  simp only [stops_iff, parse_of_cut h, Traced.map_eq_error_iff, ofName_eq_error_iff]
  constructor
  · rintro (⟨-, other⟩ | ⟨-, e, -, other⟩ | ⟨regex, g, stopped, same⟩)
    · cases other
    · cases other
    · cases same
      exact ⟨regex, stopped⟩
  · rintro ⟨regex, stopped⟩
    exact .inr (.inr ⟨regex, f, stopped, rfl⟩)

end Cut

/-! ## Segments -/

theorem parseSegment_eq_ok_iff (s : String) (c : Clause) :
    parseSegment s = .ok c ↔ Clause.parse s = .ok c := by
  unfold parseSegment
  cases Clause.parse s <;> simp

theorem segment_of_error {s : String} {e : FilterError} (h : parseSegment s = .error e) : e.segment = s := by
  unfold parseSegment at h
  cases read : Clause.parse s with
  | ok c =>
    rw [read] at h
    cases h
  | error cause =>
    rw [read] at h
    cases h
    rfl

theorem Reads.cut {s q : String} {c : Clause} (h : Reads s c q) : Cut s c.negated c.condition.name q :=
  cut_of_name (name_mem c.condition) h.written

theorem Reads.ofName_eq {s q : String} {c : Clause} (h : Reads s c q) :
    Condition.ofName c.condition.name q = .ok c.condition :=
  (ofName_eq_ok_iff _ q _).mpr ⟨rfl, h.text, h.compiled⟩

/-- A segment is read as a clause exactly where it is written as that clause. -/
theorem parse_eq_ok_iff (s : String) (c : Clause) : Clause.parse s = .ok c ↔ ∃ q, Reads s c q := by
  constructor
  · intro read
    have wellShaped : ¬ Misshapen s := by
      intro misshapen
      rcases parse_of_misshapen misshapen with doubled | colonless
      · rw [doubled] at read
        cases read
      · rw [colonless] at read
        cases read
    obtain ⟨negated, name, q, cut⟩ := (exists_cut_iff s).mpr wellShaped
    rw [parse_of_cut cut] at read
    obtain ⟨condition, named, rfl⟩ := Traced.map_eq_ok_iff.mp read
    obtain ⟨rfl, text, compiled⟩ := (ofName_eq_ok_iff name q condition).mp named
    exact ⟨q, cut.written, text, compiled⟩
  · rintro ⟨q, reads⟩
    rw [parse_of_cut reads.cut, reads.ofName_eq]
    rfl

/-- A segment is written as one clause only, with one text behind its colon. -/
theorem Reads.unique {s p q : String} {c d : Clause} (h : Reads s c p) (h' : Reads s d q) :
    c = d ∧ p = q := by
  have first := (parse_eq_ok_iff s c).mpr ⟨p, h⟩
  have second := (parse_eq_ok_iff s d).mpr ⟨q, h'⟩
  rw [first] at second
  exact ⟨Except.ok.inj second, (h.cut.unique h'.cut).2.2⟩

end FeedSieve.Filter
