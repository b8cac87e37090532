import FeedSieve.Proofs.Pattern.Step

/-!
# Where faults in reading a pattern come from

Every part of a pattern keeps the reader in the text. Only the count of a repetition and the flags of the
whole pattern can end with a fault, and then they are written in the text. Main statement:
`blamed_of_parse`.
-/
namespace FeedSieve.Pattern

namespace Parser

variable {text read : List Char}

/-! ## Characters and escapes -/

theorem keeps_take : Keeps text take := leads_take.forget

theorem keeps_accept (c : Char) : Keeps text (accept c) := (leads_accept c).forget

theorem keeps_some (isMember : Char → Bool) (count : Nat) : Keeps text (some_ isMember count) :=
  (leads_some isMember count).relax fun _ _ done => done.2.forget

theorem leads_fuel {before : Reader → Prop} : Leads text before fuel fun _ => before := .look_pure _

theorem keeps_fuel : Keeps text fuel := leads_fuel

theorem keeps_untilFrom (mark : Char) (what : String) (fuel : Nat) (found : List Char) :
    Keeps text (untilFrom mark what fuel found) := by
  induction fuel generalizing found with
  | zero => exact .failAt _ _
  | succ fuel ih =>
    refine keeps_take.bind fun t => ?_
    split
    · split <;> exact .fail _ _
    · split
      · split
        · exact .fail _ _
        · exact .pure _
      · exact ih _

theorem keeps_untilMark (mark : Char) (what : String) : Keeps text (untilMark mark what) :=
  keeps_fuel.bind fun fuel => keeps_untilFrom mark what fuel []

theorem keeps_skipPast (mark : Char) (fuel : Nat) : Keeps text (skipPast mark fuel) := by
  induction fuel with
  | zero => exact .pure _
  | succ fuel ih =>
    refine keeps_take.bind fun t => ?_
    split
    · exact .pure _
    · split
      · exact .pure _
      · exact ih

theorem keeps_hexEscape (letter : Char) (count : Nat) : Keeps text (hexEscape letter count) := by
  refine (keeps_some _ _).bind fun digits => ?_
  dsimp only
  split
  · exact .fail _ _
  · split
    · exact .fail _ _
    · exact .pure _

theorem keeps_nameEscape : Keeps text nameEscape := by
  refine (keeps_accept _).bind fun opened => ?_
  split
  · refine (keeps_untilMark _ _).bind fun name => ?_
    split
    · exact .pure _
    · exact .fail _ _
  · exact .fail _ _

theorem keeps_of_spelled {c : Char} {code : Parser Nat} (h : spelled? c = some code) : Keeps text code := by
  unfold spelled? at h
  repeat' split at h
  all_goals cases h
  · exact keeps_hexEscape _ _
  · exact keeps_hexEscape _ _
  · exact keeps_hexEscape _ _
  · exact keeps_nameEscape

theorem keeps_octal (digits : List Char) : Keeps text (octal digits) := by
  unfold octal
  dsimp only
  split
  · exact .fail _ _
  · exact .pure _

theorem keeps_literal (c : Char) : Keeps text (literal c) := by
  unfold literal
  split
  · exact .fail _ _
  · exact .pure _

theorem keeps_setEscape (f : FlagSet) (c : Char) : Keeps text (setEscape f c) := by
  unfold setEscape
  split
  case h_1 => exact .pure _
  case h_2 => exact .pure _
  case h_3 code spelled _ _ => exact (keeps_of_spelled spelled).bind fun _ => .pure _
  case h_4 =>
    split
    · exact .pure _
    · split
      · exact (keeps_some _ _).bind fun _ => (keeps_octal _).bind fun _ => .pure _
      · exact (keeps_literal _).bind fun _ => .pure _

/-! ## Sets -/

theorem keeps_setAtom (f : FlagSet) (t : Token) : Keeps text (setAtom f t) := by
  cases t with
  | plain c => exact .pure _
  | escaped c => exact keeps_setEscape f c

theorem keeps_setItems (f : FlagSet) (start fuel : Nat) (done : List SetItem) :
    Keeps text (setItems f start fuel done) := by
  induction fuel generalizing done with
  | zero => exact .failAt _ _
  | succ fuel ih =>
    refine keeps_take.bind fun t => ?_
    split
    · exact .failAt _ _
    · split
      · exact .pure _
      · refine (keeps_setAtom _ _).bind fun first => (keeps_accept _).bind fun ranged => ?_
        split
        · refine keeps_take.bind fun u => ?_
          split
          · exact .failAt _ _
          · split
            · exact .pure _
            · refine (keeps_setAtom _ _).bind fun second => ?_
              dsimp only
              split
              · split
                · exact .fail _ _
                · exact ih _
              · exact .fail _ _
        · exact ih _

theorem keeps_set (f : FlagSet) : Keeps text (set_ f) :=
  .look fun _ => (keeps_accept _).bind fun _ => keeps_fuel.bind fun _ =>
    (keeps_setItems _ _ _ _).bind fun _ => .pure _

/-! ## References -/

theorem keeps_isClosed (number : Nat) : Keeps text (isClosed number) := .look fun _ => .pure _

theorem keeps_checkLookbehind (number : Nat) : Keeps text (checkLookbehind number) := by
  refine .look fun r => ?_
  split
  · exact .pure _
  · refine (keeps_isClosed number).bind fun closed => ?_
    split
    · exact .fail _ _
    · split
      · exact .fail _ _
      · exact .pure _

theorem keeps_reference (f : FlagSet) (number back : Nat) : Keeps text (reference f number back) := by
  refine .look fun r => ?_
  split
  · exact .fail _ _
  · exact (keeps_checkLookbehind number).bind fun _ => .pure _

theorem keeps_groupName (mark : Char) : Keeps text (groupName mark) := by
  refine (keeps_untilMark _ _).bind fun name => ?_
  split
  · exact .pure _
  · exact .fail _ _

theorem keeps_numberNamed (name : String) : Keeps text (numberNamed name) := by
  refine .look fun r => ?_
  split
  · exact .pure _
  · exact .fail _ _

theorem keeps_digitEscape (f : FlagSet) (c : Char) : Keeps text (digitEscape f c) := by
  unfold digitEscape
  dsimp only
  split
  · exact (keeps_some _ _).bind fun _ => (keeps_octal _).bind fun _ => .pure _
  · refine (keeps_some _ _).bind fun second => .branch (keeps_some _ _) (.pure _) fun third => ?_
    split
    · exact (keeps_octal _).bind fun _ => .pure _
    · refine .look fun r => ?_
      split
      · exact keeps_reference _ _ _
      · exact .fail _ _

/-! ## Flags -/

/-- The letters of flags that are turned on stand in the text, from the parenthesis to their mark. -/
theorem leads_flagsOn (fuel : Nat) (c : Char) (added : FlagSet) :
    Leads text (Behind text ('(' :: '?' :: added ++ [c])) (flagsOn fuel c added)
      fun result => Behind text ('(' :: '?' :: result.1 ++ [result.2]) := by
  induction fuel generalizing c added with
  | zero => exact .fail _ _
  | succ fuel ih =>
    unfold flagsOn
    dsimp only
    split
    · exact .fail _ _
    · split
      · exact .fail _ _
      · refine leads_take.bind fun t => ?_
        split
        · exact .fail _ _
        · split
          · exact .pure fun _ done => done
          · split
            · exact ih _ _
            · exact .refuseFlag _ _
        · exact .refuseFlag _ _

theorem keeps_flagsOff (fuel : Nat) (c : Char) (removed : FlagSet) :
    Keeps text (flagsOff fuel c removed) := by
  induction fuel generalizing c removed with
  | zero => exact .fail _ _
  | succ fuel ih =>
    unfold flagsOff
    split
    · exact .fail _ _
    · refine keeps_take.bind fun t => ?_
      split
      · exact .fail _ _
      · split
        · exact .pure _
        · split
          · exact ih _ _
          · exact .refuseFlag _ _
      · exact .refuseFlag _ _

/-- The flags that were turned on end with their mark. -/
def TurnedOn (text : List Char) (result : FlagSet × Char) (r : Reader) : Prop :=
  Behind text [] r ∧ (result.2 = ')' → Behind text ('(' :: '?' :: result.1 ++ [')']) r)

theorem TurnedOn.keeps {α : Type} {result : FlagSet × Char} {step : Parser α} (h : Keeps text step) :
    Leads text (TurnedOn text result) step fun _ => Behind text [] :=
  h.restrict fun _ start => start.1

/-- The flags of a group are compared with one another, and nothing more is read for it. -/
theorem keeps_comparedFlags (added removed : FlagSet) :
    Keeps text (if 't' ∈ removed then fail .globalFlagOff 1
      else if added.any (· ∈ removed) then fail .flagOnAndOff 1
      else return some (added, removed)) := by
  split
  · exact .fail _ _
  · split
    · exact .fail _ _
    · exact .pure _

/-- Only flags that stand in the text are turned on for the whole pattern. -/
theorem leads_flags (c : Char) :
    Leads text (Behind text ['(', '?', c]) (flags c) fun _ => Behind text [] := by
  unfold flags
  dsimp only
  split
  case' isTrue =>
    refine .via (TurnedOn text) (.pure fun r start => ?_) ?_
    · exact ⟨start.forget, fun closed => absurd closed (by decide)⟩
  case' isFalse =>
    refine leads_fuel.bind fun fuel => .via (TurnedOn text) ?_ ?_
    · refine (leads_flagsOn fuel c []).relax fun result r done => ?_
      exact ⟨done.forget, fun closed => closed ▸ done⟩
  all_goals
    rintro ⟨added, mark⟩
    dsimp only
    split
    case isTrue closed =>
      -- The flags are for the whole pattern: they become flags of the reader.
      refine .via (fun _ => Behind text []) (.modify fun r ⟨start, on⟩ => ?_)
        fun _ => .pure fun _ done => done
      refine ⟨start.rest, fun flag member => ?_⟩
      rcases List.mem_append.mp member with before | here
      · exact start.flags flag before
      · exact ⟨added, here, (on closed).part⟩
    case isFalse =>
      -- The flags are for a group, and the reader's own flags stay as they are.
      refine TurnedOn.keeps ?_
      split
      · exact .fail _ _
      · split
        · refine keeps_take.bind fun t => ?_
          split
          · exact (Keeps.fail _ _).bind (keeps_comparedFlags added)
          · split
            · exact keeps_fuel.bind fun fuel => (keeps_flagsOff fuel _ []).bind (keeps_comparedFlags added)
            · exact (Keeps.refuseFlag _ _).bind (keeps_comparedFlags added)
          · exact (Keeps.refuseFlag _ _).bind (keeps_comparedFlags added)
        · exact (Keeps.pure _).bind (keeps_comparedFlags added)

/-! ## Repetitions -/

theorem leads_count {before : Reader → Prop} {digits : List Char} (counted : Counted text digits) :
    Leads text before (count digits) fun _ => before := by
  unfold count
  dsimp only
  split
  case isTrue long =>
    rintro r - f ⟨⟩
    exact .longCount counted long
  case isFalse =>
    split
    case isTrue large =>
      rintro r - f ⟨⟩
      exact .largeCount counted large
    case isFalse => exact .pure fun _ start => start

/-- The counts of a repetition are read, and these are all if the brace follows. -/
def Unclosed (text low high : List Char) (r : Reader) : Prop :=
  ∃ read, (read ++ ['\x7d'] <:+: text → Braces text low high) ∧ Behind text read r

theorem leads_braces : Leads text (Behind text ['\x7b']) braces fun _ => Behind text [] := by
  unfold braces
  refine .look fun start begun => leads_peek.bind fun t => ?_
  split
  · exact .pure fun r here => here.2 ▸ begun.forget
  · refine Leads.restrict (Leads.resume ?_ begun) fun _ here => here.2
    refine (leads_some _ _).bind fun low => .assume fun lowDigits => (leads_accept ',').bind fun comma => ?_
    refine .branch (Unclosed text low) (fun separated => ?_) (fun alone => ?_) fun high => ?_
    · rw [if_pos separated]
      refine (leads_some _ _).relax fun high r ⟨highDigits, done⟩ => ⟨_, fun written => ?_, done⟩
      exact ⟨List.forall_mem_append.mpr ⟨lowDigits, highDigits⟩, .inr (by simpa using written)⟩
    · rw [if_neg alone]
      refine .pure fun r start => ⟨_, fun written => ?_, start⟩
      exact ⟨List.forall_mem_append.mpr ⟨lowDigits, lowDigits⟩, .inl ⟨written, rfl⟩⟩
    refine .exists fun read => .assume fun counts => (leads_accept '\x7d').bind fun closed => ?_
    split
    case isTrue =>
      -- With the closing brace, the counts that were read are those of a repetition in the text.
      refine Leads.restrict (.assume fun braces => ?_) fun r done => ⟨counts done.part, done.forget⟩
      refine Keeps.branch (.pure _) (leads_count ⟨low, high, braces, .inl rfl⟩) fun least => ?_
      split
      · exact Keeps.pure _
      · refine .bind (leads_count ⟨low, high, braces, .inr rfl⟩) fun most => ?_
        split
        · exact .failAt _ _
        · exact Keeps.pure _
    case isFalse =>
      -- No repetition: the brace is a character, and the reader goes back behind it.
      exact .via (fun _ => Behind text []) (.set begun.forget) fun _ => .pure fun _ done => done

theorem leads_repetition (c : Char) :
    Leads text (Behind text [c]) (repetition c) fun _ => Behind text [] := by
  unfold repetition
  split
  · exact (Keeps.pure _).behind _
  · split
    · exact (Keeps.pure _).behind _
    · split
      · exact (Keeps.pure _).behind _
      · split
        case isTrue opens =>
          subst opens
          exact leads_braces
        case isFalse => exact (Keeps.pure _).behind _

theorem keeps_greed : Keeps text greed := by
  refine (keeps_accept '?').bind fun rarely => ?_
  split
  · exact .pure _
  · refine (keeps_accept '+').bind fun firmly => ?_
    split
    · exact .pure _
    · exact .pure _

theorem keeps_repeatLast (start least : Nat) (most : Option Nat) (done : List Piece) :
    Keeps text (repeatLast start least most done) := by
  unfold repeatLast
  split
  · exact .failAt _ _
  · split
    · exact .failAt _ _
    · exact .failAt _ _
    · exact keeps_greed.bind fun _ => .pure _

/-! ## Groups -/

theorem keeps_escape (f : FlagSet) (c : Char) : Keeps text (escape f c) := by
  unfold escape
  split
  case h_1 => exact .pure _
  case h_2 => exact .pure _
  case h_3 => exact .pure _
  case h_4 code spelled _ _ _ => exact (keeps_of_spelled spelled).bind fun _ => .pure _
  case h_5 =>
    split
    · exact (keeps_digitEscape f c).bind fun _ => .pure _
    · exact (keeps_literal c).bind fun _ => .pure _

theorem keeps_conditionGroup : Keeps text conditionGroup := by
  refine (keeps_untilMark _ _).bind fun name => ?_
  dsimp only
  split
  · exact keeps_numberNamed name
  · split
    · exact .fail _ _
    · split
      · exact .fail _ _
      · refine .bind (.modify ?_ ?_) fun _ => .pure _
        · intro r
          split <;> rfl
        · intro r
          split <;> rfl
    · exact .fail _ _

/-- The opening of a group, behind its parenthesis. -/
theorem leads_opening (f : FlagSet) : Leads text (Behind text ['(']) (opening f) fun _ => Behind text [] := by
  unfold opening
  refine .look fun start begun => ?_
  dsimp only
  refine Leads.resume ?_ begun
  refine (leads_accept '?').bind fun extended => ?_
  cases extended
  · exact (Keeps.pure _).behind _
  change Leads text (Behind text ['(', '?']) _ _
  refine leads_take.bind fun t => ?_
  rcases t with _ | c | c
  · exact .fail _ _
  · dsimp only
    split
    · -- A group that is named, or a reference to one.
      refine Keeps.behind (.bind (keeps_accept '<') fun named => ?_) _
      split
      · exact (keeps_groupName _).bind fun _ => .pure _
      · refine (keeps_accept '=').bind fun again => ?_
        split
        · exact (keeps_groupName _).bind fun _ => (keeps_numberNamed _).bind fun _ =>
            (keeps_reference _ _ _).bind fun _ => .pure _
        · refine keeps_take.bind fun u => ?_
          split <;> exact .fail _ _
    split
    · exact (Keeps.pure _).behind _
    split
    · -- A comment.
      refine Keeps.behind (.bind keeps_fuel fun fuel => .bind (keeps_skipPast _ fuel) fun closed => ?_) _
      split
      · exact .pure _
      · exact .failAt _ _
    split
    · exact (Keeps.pure _).behind _
    split
    · exact (Keeps.pure _).behind _
    split
    · -- A look behind.
      refine Keeps.behind (.bind keeps_take fun u => ?_) _
      split
      · exact .fail _ _
      · exact .pure _
      · exact .pure _
      · exact .fail _ _
    split
    · refine Keeps.behind (.bind keeps_conditionGroup fun number => ?_) _
      exact (keeps_checkLookbehind number).bind fun _ => .pure _
    split
    · exact (Keeps.pure _).behind _
    split
    · refine (leads_flags c).bind fun result => ?_
      split <;> exact .pure fun _ done => done
    · exact .fail _ _
  · exact .fail _ _

theorem keeps_openGroup (name : Option String) : Keeps text (openGroup name) := by
  refine Leads.look fun r start => ?_
  dsimp only
  split
  · exact .via (fun _ => Behind text []) (.set ⟨start.rest, start.flags⟩) fun _ => Keeps.pure _
  · split
    · exact .fail _ _
    · exact .via (fun _ => Behind text []) (.set ⟨start.rest, start.flags⟩) fun _ => Keeps.pure _

theorem keeps_close (start : Nat) : Keeps text (close start) := by
  refine (keeps_accept _).bind fun closed => ?_
  split
  · exact .pure _
  · exact .failAt _ _

theorem keeps_closed (start : Nat) (node : Node) :
    Keeps text (do
      close start
      return Opened.piece ⟨node, .item⟩) :=
  (keeps_close start).bind fun _ => .pure _

/-! ## Patterns -/

/-- With some fuel, all parts of a pattern keep the reader in the text. -/
structure KeepsWith (text : List Char) (fuel : Nat) : Prop where
  alternatives : ∀ top f, Keeps text (alternatives fuel top f)
  moreAlternatives : ∀ top f first, Keeps text (moreAlternatives fuel top f first)
  sequence : ∀ first f done, Keeps text (sequence fuel first f done)
  group : ∀ mayFlag f, Leads text (Behind text ['(']) (group fuel mayFlag f) fun _ => Behind text []

section Step

variable {fuel : Nat} (h : KeepsWith text fuel)

include h

theorem KeepsWith.alternatives_succ (top : Bool) (f : FlagSet) :
    Keeps text (Parser.alternatives (fuel + 1) top f) := by
  rw [Parser.alternatives]
  exact (h.sequence _ _ _).bind fun first => h.moreAlternatives _ _ first

theorem KeepsWith.moreAlternatives_succ (top : Bool) (f : FlagSet) (first : Node) :
    Keeps text (Parser.moreAlternatives (fuel + 1) top f first) := by
  rw [Parser.moreAlternatives]
  refine (keeps_accept '|').bind fun more => ?_
  split
  · refine .look fun r => ?_
    exact (h.sequence _ _ _).bind fun second => (h.moreAlternatives _ _ second).bind fun _ => .pure _
  · exact .pure _

theorem KeepsWith.sequence_succ (first : Bool) (f : FlagSet) (done : List Piece) :
    Keeps text (Parser.sequence (fuel + 1) first f done) := by
  rw [Parser.sequence]
  refine Leads.look fun r start => ?_
  refine Leads.resume ?_ start
  refine leads_peek.bind fun t => ?_
  split
  · exact .pure fun r here => here.2
  · rename_i t
    split
    · exact .pure fun r here => here.2
    refine (leads_advance (some t)).bind fun _ => ?_
    split
    · exact (h.sequence _ _ _).behind _
    split
    · exact (keeps_fuel.bind fun fuel => (keeps_skipPast _ fuel).bind fun _ => h.sequence _ _ _).behind _
    split
    · exact ((keeps_escape _ _).bind fun _ => h.sequence _ _ _).behind _
    · exact ((keeps_set _).bind fun _ => h.sequence _ _ _).behind _
    · refine .bind (h.group _ _) fun opened => ?_
      split
      · exact h.sequence _ _ _
      · exact h.sequence _ _ _
      · exact Keeps.look fun r => h.sequence _ _ _
    · refine .bind (leads_repetition _) fun counts => ?_
      split
      · exact (keeps_repeatLast _ _ _ _).bind fun _ => h.sequence _ _ _
      · exact h.sequence _ _ _

theorem KeepsWith.group_succ (mayFlag : Bool) (f : FlagSet) :
    Leads text (Behind text ['(']) (Parser.group (fuel + 1) mayFlag f) fun _ => Behind text [] := by
  rw [Parser.group]
  refine .look fun r start => ?_
  refine Leads.resume ?_ start
  dsimp only
  refine (leads_opening f).bind fun o => ?_
  cases o with
  | comment => exact Keeps.pure _
  | flags =>
    dsimp only
    split
    · exact Keeps.pure _
    · exact .failAt _ _
  | reference n => exact Keeps.pure _
  | look behind outside =>
    refine Keeps.look fun outer => ?_
    split
    · refine .bind (.modify (fun _ => rfl) fun _ => rfl) fun _ => (h.alternatives _ _).bind fun n => ?_
      exact .bind (.modify (fun _ => rfl) fun _ => rfl) fun _ => keeps_closed _ _
    · exact (h.alternatives _ _).bind fun n => keeps_closed _ _
  | condition number =>
    refine (h.sequence _ _ _).bind fun yes => (keeps_accept '|').bind fun more => ?_
    split
    · refine (h.sequence _ _ _).bind fun no => leads_peek.bind fun t => ?_
      refine Leads.restrict ?_ fun _ here => here.2
      split
      · exact (Keeps.fail _ _).bind fun _ => (Keeps.pure _).bind fun _ => keeps_closed _ _
      · exact (Keeps.pure _).bind fun _ => keeps_closed _ _
    · exact (Keeps.pure _).bind fun _ => keeps_closed _ _
  | plain added removed =>
    exact (h.alternatives _ _).bind fun n => keeps_closed _ _
  | atomic =>
    exact (h.alternatives _ _).bind fun n => keeps_closed _ _
  | capture name =>
    refine (keeps_openGroup name).bind fun number => (h.alternatives _ _).bind fun n =>
      (keeps_close _).bind fun _ => .bind (.modify ?_ ?_) fun _ => .pure _
    · exact fun _ => rfl
    · exact fun _ => rfl

end Step

theorem keepsWith (text : List Char) (fuel : Nat) : KeepsWith text fuel := by
  -- The four readers call each other with one less, so they keep the reader together.
  induction fuel with
  | zero =>
    refine ⟨fun _ _ => ?_, fun _ _ _ => ?_, fun _ _ _ => ?_, fun _ _ => ?_⟩
    · rw [alternatives]
      exact .fail _ _
    · rw [moreAlternatives]
      exact .pure _
    · rw [sequence]
      exact .fail _ _
    · rw [group]
      exact .fail _ _
  | succ fuel ih =>
    exact ⟨ih.alternatives_succ, ih.moreAlternatives_succ, ih.sequence_succ, ih.group_succ⟩

theorem keeps_pattern : Keeps text pattern := by
  refine .look fun r => .bind (leads_checkToken _ _) fun _ => ?_
  refine .bind ((keepsWith text _).alternatives _ _) fun n => Leads.look fun r start => ?_
  refine Leads.resume ?_ start
  split
  case isTrue both =>
    rintro r - f ⟨⟩
    exact .alphabets (start.flags 'a' both.1) (start.flags 'u' both.2)
  case isFalse =>
    split
    · exact .fail _ _
    · split
      · exact .failAt _ _
      · exact .pure fun _ done => done

end Parser

/-- Something in the text of a pattern is to blame for a fault in reading it: a count in the braces of a
repetition that is too long or too large, or flags for both alphabets. -/
theorem blamed_of_parse {text : String} {f : Fault} (h : parse text = .error (.fault f)) :
    Blamed text.toList f := by
  have begun : Behind text.toList [] ⟨text.toList, 0, [], 1, [], [], none, []⟩ :=
    ⟨List.suffix_rfl, by simp⟩
  have read := Parser.keeps_pattern _ begun
  unfold parse at h
  split at h
  case h_1 refusal refused =>
    cases h
    rw [show Parser.pattern _ = _ from refused] at read
    exact read f rfl
  case h_2 =>
    split at h
    · cases h
    · cases h

end FeedSieve.Pattern
