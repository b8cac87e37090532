import FeedSieve.Pattern.Parse

/-!
# Steps of reading a pattern

What in a text can be to blame for a fault, and what a step of reading does to a reader that stands in a
text: `Leads` says where it leads the reader, and that it ends without a fault or with one that something
in the text is to blame for.
-/
namespace FeedSieve.Pattern

/-! ## What is to blame -/

/-- The text holds the braces of a repetition with these counts, which may be one. -/
structure Braces (text low high : List Char) : Prop where
  digits : ∀ c ∈ low ++ high, c.isDigit = true
  written : '\x7b' :: low ++ ['\x7d'] <:+: text ∧ high = low ∨
    '\x7b' :: low ++ ',' :: high ++ ['\x7d'] <:+: text

/-- The text holds the count of a repetition. -/
def Counted (text digits : List Char) : Prop :=
  ∃ low high, Braces text low high ∧ (digits = low ∨ digits = high)

/-- The text holds flags for the whole pattern, and this is one of them. -/
def Flagged (text : List Char) (flag : Char) : Prop :=
  ∃ letters, flag ∈ letters ∧ '(' :: '?' :: letters ++ [')'] <:+: text

/-- What in a text is to blame for a fault. -/
inductive Blamed (text : List Char) : Fault → Prop where
  | longCount {digits : List Char} (counted : Counted text digits)
      (long : Text.Number.digitLimit < digits.length) : Blamed text (.countTooLong digits.length)
  | largeCount {digits : List Char} (counted : Counted text digits)
      (large : repeatLimit ≤ Parser.numberOf 10 digits) : Blamed text .repetitionTooLarge
  | alphabets (ascii : Flagged text 'a') (all : Flagged text 'u') : Blamed text .clashingAlphabets

/-- An error, or a fault that something in the text is to blame for. -/
def Harmless (text : List Char) (refusal : Refusal) : Prop :=
  ∀ f, refusal = .fault f → Blamed text f

theorem harmless_error (text : List Char) (e : PatternError) : Harmless text (.error e) := by
  rintro f ⟨⟩

/-! ## Steps -/

/-- The reader stands in the text, right behind some characters of it, and its flags are of the text. -/
structure Behind (text read : List Char) (r : Reader) : Prop where
  rest : read ++ r.rest <:+ text
  flags : ∀ flag ∈ r.globals, Flagged text flag

theorem Behind.drop {text before read : List Char} {r : Reader} (h : Behind text (before ++ read) r) :
    Behind text read r := by
  refine ⟨?_, h.flags⟩
  have rest := h.rest
  rw [List.append_assoc] at rest
  exact (List.suffix_append before _).trans rest

theorem Behind.forget {text read : List Char} {r : Reader} (h : Behind text read r) : Behind text [] r :=
  Behind.drop (by rwa [List.append_nil])

/-- What the reader has read is a part of the text. -/
theorem Behind.part {text read : List Char} {r : Reader} (h : Behind text read r) : read <:+: text :=
  (List.prefix_append read r.rest).isInfix.trans h.rest.isInfix

/-- From readers of one kind the step leads to readers of another, and what it refuses is harmless. -/
def Leads {α : Type} (text : List Char) (before : Reader → Prop) (step : Parser α)
    (after : α → Reader → Prop) : Prop :=
  ∀ r, before r → match step r with
    | .ok (a, r') => after a r'
    | .error refusal => Harmless text refusal

section Leads

variable {α β : Type} {text : List Char} {before : Reader → Prop}

theorem Leads.bind {step : Parser α} {next : α → Parser β} {between : α → Reader → Prop}
    {after : β → Reader → Prop} (first : Leads text before step between)
    (second : ∀ a, Leads text (between a) (next a) after) : Leads text before (step >>= next) after := by
  intro r start
  have first := first r start
  change match (step r >>= fun done => next done.1 done.2) with
    | .ok (b, r') => after b r'
    | .error refusal => Harmless text refusal
  cases done : step r with
  | error refusal =>
    rw [done] at first
    exact first
  | ok result =>
    obtain ⟨a, r'⟩ := result
    rw [done] at first
    exact second a r' first

/-- A composed step leads by way of some kind of readers. -/
theorem Leads.via {step : Parser α} {next : α → Parser β} {after : β → Reader → Prop}
    (between : α → Reader → Prop) (first : Leads text before step between)
    (second : ∀ a, Leads text (between a) (next a) after) : Leads text before (step >>= next) after :=
  first.bind second

/-- A step is chosen between two, and what follows is the same. -/
theorem Leads.branch {p : Prop} [Decidable p] {yes no : Parser α} {next : α → Parser β}
    {after : β → Reader → Prop} (between : α → Reader → Prop) (first : p → Leads text before yes between)
    (other : ¬p → Leads text before no between) (second : ∀ a, Leads text (between a) (next a) after) :
    Leads text before (if p then yes >>= next else no >>= next) after := by
  split
  case isTrue chosen => exact (first chosen).bind second
  case isFalse passed => exact (other passed).bind second

/-- A step leads from fewer readers to the same kind. -/
theorem Leads.restrict {step : Parser α} {before' : Reader → Prop} {after : α → Reader → Prop}
    (h : Leads text before step after) (first : ∀ r, before' r → before r) :
    Leads text before' step after :=
  fun r start => h r (first r start)

/-- A step leads to a kind of more readers. -/
theorem Leads.relax {step : Parser α} {after after' : α → Reader → Prop}
    (h : Leads text before step after) (last : ∀ a r, after a r → after' a r) :
    Leads text before step after' := by
  intro r start
  have done := h r start
  revert done
  cases step r with
  | error refusal => exact id
  | ok result => exact last result.1 result.2

/-- A step is taken from a reader of which the kind is known. -/
theorem Leads.resume {step : Parser α} {after : α → Reader → Prop} {r : Reader}
    (h : Leads text before step after) (start : before r) : Leads text (· = r) step after :=
  h.restrict fun _ same => same ▸ start

/-- What a step has read may be forgotten. -/
theorem Leads.forget {step : Parser α} {read : α → List Char}
    (h : Leads text before step fun a => Behind text (read a)) :
    Leads text before step fun _ => Behind text [] :=
  h.relax fun _ _ done => done.forget

/-- What is known of all readers that a step starts from may be used for the step. -/
theorem Leads.assume {known : Prop} {step : Parser α} {after : α → Reader → Prop}
    (h : known → Leads text before step after) : Leads text (fun r => known ∧ before r) step after :=
  fun r start => h start.1 r start.2

theorem Leads.exists {ι : Type} {kinds : ι → Reader → Prop} {step : Parser α} {after : α → Reader → Prop}
    (h : ∀ i, Leads text (kinds i) step after) : Leads text (fun r => ∃ i, kinds i r) step after :=
  fun r ⟨i, start⟩ => h i r start

theorem Leads.pure {a : α} {after : α → Reader → Prop} (h : ∀ r, before r → after a r) :
    Leads text before (pure a) after := h

/-- A step that looks at the reader goes on from that very reader. -/
theorem Leads.look {next : Reader → Parser β} {after : β → Reader → Prop}
    (h : ∀ r, before r → Leads text (· = r) (next r) after) :
    Leads text before (get >>= next) after :=
  fun r start => h r start r rfl

theorem Leads.set {r : Reader} {after : PUnit → Reader → Prop} (h : after ⟨⟩ r) :
    Leads text before (MonadState.set r) after := fun _ _ => h

theorem Leads.modify {change : Reader → Reader} {after : PUnit → Reader → Prop}
    (h : ∀ r, before r → after ⟨⟩ (change r)) : Leads text before (modify change) after := h

theorem Leads.failAt (cause : Cause) (position : Nat) {after : α → Reader → Prop} :
    Leads text before (Parser.failAt cause position) after :=
  fun _ _ => harmless_error text _

theorem Leads.fail (cause : Cause) (back : Nat) {after : α → Reader → Prop} :
    Leads text before (Parser.fail cause back) after :=
  fun _ _ => harmless_error text _

theorem Leads.refuseFlag (cause : Cause) (t : Token) {after : α → Reader → Prop} :
    Leads text before (Parser.refuseFlag cause t) after := by
  cases t with
  | plain c => exact .fail _ _
  | escaped c => exact .fail _ _

/-- A step that only looks at the reader leaves it where it is. -/
theorem Leads.look_pure (value : Reader → α) :
    Leads text before (do return value (← get)) fun _ => before :=
  fun _ start => start

/-- A step that is taken from anywhere in the text, and stays there. -/
def Keeps (text : List Char) (step : Parser α) : Prop :=
  Leads text (Behind text []) step fun _ => Behind text []

theorem Keeps.pure (a : α) : Keeps text (pure a) := Leads.pure fun _ start => start

theorem Keeps.fail (cause : Cause) (back : Nat) : Keeps text (Parser.fail cause back : Parser α) :=
  Leads.fail cause back

theorem Keeps.failAt (cause : Cause) (position : Nat) :
    Keeps text (Parser.failAt cause position : Parser α) :=
  Leads.failAt cause position

theorem Keeps.refuseFlag (cause : Cause) (t : Token) :
    Keeps text (Parser.refuseFlag cause t : Parser α) :=
  Leads.refuseFlag cause t

theorem Keeps.bind {step : Parser α} {next : α → Parser β} (first : Keeps text step)
    (second : ∀ a, Keeps text (next a)) : Keeps text (step >>= next) :=
  Leads.bind first second

theorem Keeps.branch {p : Prop} [Decidable p] {yes no : Parser α} {next : α → Parser β}
    (first : Keeps text yes) (other : Keeps text no) (second : ∀ a, Keeps text (next a)) :
    Keeps text (if p then yes >>= next else no >>= next) :=
  Leads.branch (fun _ => Behind text []) (fun _ => first) (fun _ => other) second

theorem Keeps.look {next : Reader → Parser β} (h : ∀ r, Keeps text (next r)) :
    Keeps text (get >>= next) :=
  Leads.look fun r start => (h r).resume start

theorem Keeps.modify {change : Reader → Reader} (rest : ∀ r, (change r).rest = r.rest)
    (flags : ∀ r, (change r).globals = r.globals) : Keeps text (modify change) :=
  Leads.modify fun r start => ⟨(rest r).symm ▸ start.rest, (flags r).symm ▸ start.flags⟩

/-- What was read before a step may be forgotten. -/
theorem Keeps.behind {step : Parser α} (h : Keeps text step) (read : List Char) :
    Leads text (Behind text read) step fun _ => Behind text [] :=
  h.restrict fun _ start => start.forget

end Leads

/-! ## Tokens -/

namespace Parser

def next : List Char → Option Token
  | [] => none
  | '\\' :: c :: _ => some (.escaped c)
  | c :: _ => some (.plain c)

def charsOf (t : Option Token) : List Char := t.elim [] Token.chars

/-- The characters behind the first token. -/
theorem charsOf_next_append (s : List Char) :
    charsOf (next s) ++ s.drop (charsOf (next s)).length = s := by
  unfold next
  split <;> rfl

variable {text read : List Char} {before : Reader → Prop}

theorem leads_peek : Leads text before peek fun t r => next r.rest = t ∧ before r := by
  unfold peek
  refine .look fun r start => ?_
  split
  all_goals
    refine .pure fun r same => ?_
    subst same
    exact ⟨by simp_all [next], start⟩

theorem leads_checkToken (rest : List Char) (position : Nat) :
    Leads text before (liftM (checkToken rest position)) fun _ => before := by
  unfold checkToken
  split
  · exact fun _ _ => harmless_error text _
  · exact fun _ start => start

theorem leads_advance (t : Option Token) :
    Leads text (fun r => next r.rest = t ∧ Behind text read r) advance
      fun _ => Behind text (read ++ charsOf t) := by
  unfold advance
  refine leads_peek.bind fun t' => ?_
  cases t' with
  | none =>
    refine .pure fun r ⟨found, first, start⟩ => ?_
    obtain rfl := first.symm.trans found
    rwa [charsOf, Option.elim_none, List.append_nil]
  | some t' =>
    refine .look fun r ⟨found, first, start⟩ => (leads_checkToken _ _).bind fun _ => .set ?_
    obtain rfl := first.symm.trans found
    have whole := charsOf_next_append r.rest
    rw [first] at whole
    refine ⟨?_, start.flags⟩
    have rest := start.rest
    rw [← whole, ← List.append_assoc] at rest
    exact rest

theorem leads_take : Leads text (Behind text read) take fun t => Behind text (read ++ charsOf t) := by
  unfold take
  exact leads_peek.bind fun t => (leads_advance t).bind fun _ => .pure fun _ done => done

theorem leads_accept (c : Char) :
    Leads text (Behind text read) (accept c) fun found =>
      Behind text (if found then read ++ [c] else read) := by
  unfold accept
  refine leads_peek.bind fun t => ?_
  split
  case isTrue same =>
    subst same
    exact (leads_advance _).bind fun _ => .pure fun _ done => done
  case isFalse => exact .pure fun _ start => start.2

theorem leads_some (isMember : Char → Bool) (count : Nat) :
    Leads text (Behind text read) (some_ isMember count) fun letters r =>
      (∀ c ∈ letters, isMember c = true) ∧ Behind text (read ++ letters) r := by
  induction count generalizing read with
  | zero => exact .pure fun _ start => ⟨by simp, by rwa [List.append_nil]⟩
  | succ count ih =>
    have stop : Leads text (Behind text read) (pure []) fun letters r =>
        (∀ c ∈ letters, isMember c = true) ∧ Behind text (read ++ letters) r :=
      .pure fun _ start => ⟨by simp, by rwa [List.append_nil]⟩
    unfold some_
    refine leads_peek.bind fun t => ?_
    split
    · rename_i c
      split
      case isTrue member =>
        refine (leads_advance _).bind fun _ => ih.bind fun letters => .pure fun r ⟨members, done⟩ => ?_
        refine ⟨List.forall_mem_cons.mpr ⟨member, members⟩, ?_⟩
        rwa [List.append_assoc] at done
      case isFalse => exact stop.restrict fun _ start => start.2
    · exact stop.restrict fun _ start => start.2

end Parser

end FeedSieve.Pattern
