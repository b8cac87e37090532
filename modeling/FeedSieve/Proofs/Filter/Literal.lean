import FeedSieve.Proofs.Filter.Meaning
import FeedSieve.Proofs.Pattern.Literal

/-!
# Patterns in place of texts

A pattern without operators, searched anywhere or pinned to the start or the end of a title, accepts what
the condition on its plain text accepts. Main statement: `literal_agrees`.
-/
namespace FeedSieve.Filter

open Pattern

/-- Both segments are clauses, and the two accept the same titles. -/
def Agree (s t : String) : Prop :=
  ∃ c d, parseSegment s = .ok c ∧ parseSegment t = .ok d ∧ ∀ title, c.accepts title = d.accepts title

/-- The condition on a plain text for a pattern that is pinned to the start, to the end, or not. -/
def textCondition (front back : Bool) (text : String) : Condition :=
  match front, back with
  | false, false => .contains text
  | true, false => .startsWith text
  | false, true => .endsWith text
  | true, true => .equals text

def pinnedText (front back : Bool) (text : String) : String :=
  String.ofList (pinned front back text.toList)

variable {front back : Bool} {text : String}

/-- The title has the text in it, at its start or end where it is pinned. -/
def StandsIn (front back : Bool) (text title : String) : Prop :=
  ∃ u w, title = u ++ text ++ w ∧ (front = true → u = "") ∧ (back = true → w = "")

theorem textCondition_means_iff (front back : Bool) (text title : String) :
    (textCondition front back text).Means title ↔ StandsIn front back text title := by
  cases front <;> cases back <;> simp [textCondition, Condition.Means, StandsIn]

/-- A pinned pattern means the titles that have its text in the pinned place. -/
theorem regex_means_iff (literal : Literal text.toList) (front back : Bool) (node : Node) (title : String) :
    (Condition.regex (pinnedText front back text) node).Means title ↔ StandsIn front back text title := by
  have read : Pattern.parse (pinnedText front back text) = _ := parse_pinned literal front back
  constructor
  · rintro ⟨_, read', u, v, cut, here⟩
    obtain rfl := Except.ok.inj (read.symm.trans read')
    obtain ⟨rest, after, begins, ends⟩ := (matchesAt_pinned front back text.toList _).mp here
    have split : v = text ++ String.ofList rest := by
      rw [← String.toList_inj, String.toList_append, String.toList_ofList]
      exact after
    refine ⟨u, String.ofList rest, by rw [cut, split, String.append_assoc], fun pin => ?_, fun pin => ?_⟩
    · rw [← String.toList_eq_nil_iff]
      exact List.reverse_eq_nil_iff.mp (begins pin)
    · rw [ends pin]
  · rintro ⟨u, w, cut, begins, ends⟩
    refine ⟨_, read, u, text ++ w, by rw [cut, String.append_assoc], ?_⟩
    refine (matchesAt_pinned front back text.toList _).mpr
      ⟨w.toList, String.toList_append, fun pin => ?_, fun pin => ?_⟩
    · rw [Place.between, begins pin]
      rfl
    · rw [ends pin]
      rfl

/-- A pinned pattern and the condition on its plain text agree, with a mark or without. -/
theorem agree_pinned (literal : Literal text.toList) (front back negated : Bool) :
    Agree (mark negated ++ "regex" ++ ":" ++ pinnedText front back text)
      (mark negated ++ (textCondition front back text).name ++ ":" ++ text) := by
  have pattern : Reads (mark negated ++ "regex" ++ ":" ++ pinnedText front back text)
      ⟨.regex (pinnedText front back text) (Parser.join (pinnedNodes front back text.toList)), negated⟩
      (pinnedText front back text) := by
    refine ⟨rfl, rfl, ?_⟩
    rintro _ _ ⟨⟩
    exact parse_pinned literal front back
  have plain : Reads (mark negated ++ (textCondition front back text).name ++ ":" ++ text)
      ⟨textCondition front back text, negated⟩ text := by
    refine ⟨rfl, ?_, ?_⟩ <;> cases front <;> cases back <;> simp [textCondition, Condition.name, Condition.text]
  refine ⟨_, _, parseSegment_eq_ok_iff_reads.mpr ⟨_, pattern⟩, parseSegment_eq_ok_iff_reads.mpr ⟨_, plain⟩,
    fun title => ?_⟩
  rw [Bool.eq_iff_iff, pattern.accepts_iff, plain.accepts_iff, regex_means_iff literal, textCondition_means_iff]

/-- For a text without operators, the pattern that it is agrees with the condition to contain it, the
pattern pinned to the start with the condition to start with it, the pattern pinned to the end with the
condition to end with it, and the pattern pinned to both with the condition to equal it. The same holds
when all of them are marked. -/
theorem literal_agrees (text : String) (literal : Literal text.toList) (negated : Bool) :
    Agree (mark negated ++ "regex:" ++ text) (mark negated ++ "contains:" ++ text) ∧
    Agree (mark negated ++ "regex:^" ++ text) (mark negated ++ "startsWith:" ++ text) ∧
    Agree (mark negated ++ "regex:" ++ text ++ "\\Z") (mark negated ++ "endsWith:" ++ text) ∧
    Agree (mark negated ++ "regex:^" ++ text ++ "\\Z") (mark negated ++ "equals:" ++ text) := by
  have agree (front back : Bool) (s t : String)
      (pattern : s = mark negated ++ "regex" ++ ":" ++ pinnedText front back text)
      (plain : t = mark negated ++ (textCondition front back text).name ++ ":" ++ text) : Agree s t := by
    rw [pattern, plain]
    exact agree_pinned literal front back negated
  refine ⟨agree false false _ _ ?_ ?_, agree true false _ _ ?_ ?_, agree false true _ _ ?_ ?_,
    agree true true _ _ ?_ ?_⟩ <;>
  · rw [← String.toList_inj]
    simp [pinnedText, pinned, textCondition, Condition.name, String.toList_append]

/-- A text that ends with a line feed is no exception. -/
theorem literal_agrees_lineFeed :
    Literal "é\n".toList ∧
    Agree "!regex:é\n" "!contains:é\n" ∧ Agree "!regex:^é\n" "!startsWith:é\n" ∧
    Agree "!regex:é\n\\Z" "!endsWith:é\n" ∧ Agree "!regex:^é\n\\Z" "!equals:é\n" := by
  have literal : Literal "é\n".toList := by decide
  exact ⟨literal, literal_agrees "é\n" literal true⟩

end FeedSieve.Filter
