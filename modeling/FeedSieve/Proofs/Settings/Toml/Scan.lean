import FeedSieve.Settings.Toml.Scalar

/-!
# What the readers of a settings file leave

Every reader leaves a tail of what it was given, and stops for an integer of too many digits only where such an
integer stands: `Within` says both, and is kept by composition. Here it is shown for the blanks, texts, keys, dates
and numbers.
-/
namespace FeedSieve.Settings.Toml

/-- The text holds an integer of so many digits, which are too many: a run of digits and underscores. -/
def Overlong (s : List Char) (count : Nat) : Prop :=
  Text.Number.digitLimit < count ∧ ∃ run, run <:+: s ∧ (∀ c ∈ run, c.isDigit = true ∨ c = '_')
    ∧ (run.filter Char.isDigit).length = count

theorem Overlong.of_suffix {s t : List Char} {count : Nat} (long : Overlong t count) (tail : t <:+ s) :
    Overlong s count := by
  obtain ⟨above, run, part, digits, length⟩ := long
  exact ⟨above, run, part.trans tail.isInfix, digits, length⟩

/-! ## Readers of a tail -/

/-- What a reader that may find nothing leaves is a tail of the text. -/
def Leaves {α : Type} (s : List Char) (left : α → List Char) (x : Option α) : Prop :=
  ∀ a, x = some a → left a <:+ s

/-- What a reader leaves is a tail of the text, and an integer that stops it for its digits stands there. -/
def Within {α : Type} (s : List Char) (left : α → List Char) : Except Stop α → Prop
  | .ok a => left a <:+ s
  | .error (.tooManyDigits count) => Overlong s count
  | .error (.refused ..) => True

section Rules

variable {α β : Type} {s t : List Char} {left : α → List Char} {left' : β → List Char}

theorem Leaves.none : Leaves s left none := nofun

theorem Leaves.some {a : α} (tail : left a <:+ s) : Leaves s left (some a) := by
  rintro _ ⟨⟩
  exact tail

theorem Leaves.bind {x : Option α} {f : α → Option β} (first : Leaves s left x)
    (next : ∀ a, Leaves (left a) left' (f a)) : Leaves s left' (x >>= f) := by
  intro b found
  obtain ⟨a, here, later⟩ := Option.bind_eq_some_iff.mp found
  exact (next a b later).trans (first a here)

theorem Within.pure {a : α} (tail : left a <:+ s) : Within s left (pure a) := tail

theorem within_refuse (cause : Cause) (rest : List Char) : Within s left (refuse cause rest) := trivial

theorem Within.of_suffix {x : Except Stop α} (read : Within t left x) (tail : t <:+ s) : Within s left x := by
  cases x with
  | ok a => exact List.IsSuffix.trans read tail
  | error stop =>
    cases stop with
    | refused => trivial
    | tooManyDigits count => exact Overlong.of_suffix read tail

theorem Within.bind {x : Except Stop α} {f : α → Except Stop β} (first : Within s left x)
    (next : ∀ a, Within (left a) left' (f a)) : Within s left' (x >>= f) := by
  cases x with
  | ok a => exact (next a).of_suffix first
  | error stop => cases stop <;> exact first

end Rules

/-! ## Blanks and texts -/

theorem skipSpaces_suffix (s : List Char) : skipSpaces s <:+ s := List.dropWhile_suffix _

theorem tail_suffix {c : Char} {rest s : List Char} (tail : c :: rest <:+ s) : rest <:+ s :=
  (List.suffix_cons c rest).trans tail

theorem splitBefore_suffix {mark s before after : List Char} (cut : splitBefore mark s = some (before, after)) :
    after <:+ s := by
  induction s generalizing before with
  | nil =>
    unfold splitBefore at cut
    split at cut
    · cases cut
      exact List.suffix_refl _
    · cases cut
  | cons c rest ih =>
    unfold splitBefore at cut
    split at cut
    · cases cut
      exact List.suffix_refl _
    · obtain ⟨⟨front, back⟩, found, same⟩ := Option.map_eq_some_iff.mp cut
      cases same
      exact (ih found).trans (List.suffix_cons c rest)

theorem within_checkPiece (isBad : Char → Bool) (piece rest s : List Char) :
    Within s (fun _ => s) (checkPiece isBad piece rest) := by
  unfold checkPiece
  split
  · exact List.suffix_refl s
  · trivial

theorem within_skipComment (s : List Char) : Within s id (skipComment s) := by
  unfold skipComment
  split
  · rename_i rest
    apply Within.bind (within_checkPiece _ _ _ _)
    intro _
    exact .pure ((List.dropWhile_suffix _).trans (List.suffix_cons _ _))
  · exact .pure (List.suffix_refl s)

theorem within_skipGaps (comments : Nat) (s : List Char) : Within s id (skipGaps comments s) := by
  induction comments generalizing s with
  | zero => exact .pure (List.suffix_refl s)
  | succ comments ih =>
    have blank : s.dropWhile isGap <:+ s := List.dropWhile_suffix _
    unfold skipGaps
    dsimp only
    split
    · exact ((within_skipComment _).bind ih).of_suffix blank
    · exact .pure blank

theorem within_literal (mark : String) (isBad : Char → Bool) (s : List Char) :
    Within s Prod.snd (literal mark isBad s) := by
  unfold literal
  split
  · exact within_refuse _ _
  · rename_i piece after cut
    apply Within.bind (within_checkPiece _ _ _ _)
    intro _
    exact .pure ((List.drop_suffix _ _).trans (splitBefore_suffix cut))

theorem within_spelledChar (count : Nat) (s : List Char) : Within s Prod.snd (spelledChar count s) := by
  unfold spelledChar
  dsimp only
  split
  · exact within_refuse _ _
  · split
    · exact within_refuse _ _
    · split
      · exact .pure (List.drop_suffix _ _)
      · exact within_refuse _ _

theorem within_hiddenBreak (s : List Char) : Within s Prod.snd (hiddenBreak s) := by
  have tail := skipSpaces_suffix s
  unfold hiddenBreak
  split
  · exact .pure (List.nil_suffix)
  · rename_i rest found
    rw [found] at tail
    exact .pure ((List.dropWhile_suffix _).trans (tail_suffix tail))
  · exact within_refuse _ _

theorem within_escapeSequence (isBlock : Bool) (s : List Char) :
    Within s Prod.snd (escapeSequence isBlock s) := by
  unfold escapeSequence
  split
  · exact within_refuse _ _
  · rename_i c rest
    apply Within.of_suffix (t := rest) _ (List.suffix_cons c rest)
    split
    · split
      · exact .pure (List.dropWhile_suffix _)
      · exact within_hiddenBreak rest
    · split
      · exact within_spelledChar 4 rest
      · split
        · exact within_spelledChar 8 rest
        · split
          · exact .pure (List.suffix_refl rest)
          · exact within_refuse _ _

theorem within_escapedText (isBlock : Bool) (steps : Nat) (s : List Char) :
    Within s Prod.snd (escapedText isBlock steps s) := by
  induction steps generalizing s with
  | zero => exact within_refuse _ _
  | succ steps ih =>
    cases s with
    | nil => exact within_refuse _ _
    | cons c rest =>
      have more (front : List Char) (t : List Char) : Within t Prod.snd
          (do let r ← escapedText isBlock steps t; return (front ++ r.1, r.2)) :=
        (ih t).bind fun _ => .pure (List.suffix_refl _)
      apply Within.of_suffix (t := rest) _ (List.suffix_cons c rest)
      rw [escapedText]
      split
      · split
        · exact .pure (List.suffix_refl rest)
        · split
          · exact .pure (List.drop_suffix _ _)
          · exact more [c] rest
      · split
        · exact (within_escapeSequence isBlock rest).bind fun _ => more _ _
        · split
          · split
            · exact within_refuse _ _
            · exact more [c] rest
          · split
            · exact within_refuse _ _
            · exact more [c] rest

theorem closingMarks_suffix (mark : Char) (text rest : List Char) : (closingMarks mark text rest).2 <:+ rest := by
  unfold closingMarks
  split
  · exact List.drop_suffix _ _
  · split
    · exact List.drop_suffix _ _
    · exact List.suffix_refl rest

theorem dropBreak_suffix (s : List Char) : dropBreak s <:+ s := by
  unfold dropBreak
  split
  · exact List.suffix_cons _ _
  · exact List.suffix_refl s

theorem within_lineText (s : List Char) : Within s Prod.snd (lineText s) := by
  unfold lineText
  split
  · exact (within_literal _ _ _).of_suffix (List.suffix_cons _ _)
  · exact (within_escapedText _ _ _).of_suffix (List.suffix_cons _ _)
  · exact within_refuse _ _

theorem within_anyText (s : List Char) : Within s Prod.snd (anyText s) := by
  have tail : dropBreak (s.drop 3) <:+ s := (dropBreak_suffix _).trans (List.drop_suffix _ _)
  unfold anyText
  split
  · exact ((within_literal _ _ _).bind fun _ => .pure (closingMarks_suffix _ _ _)).of_suffix tail
  · split
    · exact ((within_escapedText _ _ _).bind fun _ => .pure (closingMarks_suffix _ _ _)).of_suffix tail
    · exact within_lineText s

/-! ## Keys -/

theorem within_keyPart (s : List Char) : Within s Prod.snd (keyPart s) := by
  unfold keyPart
  split
  · exact within_refuse _ _
  · split
    · exact .pure (List.dropWhile_suffix _)
    · split
      · exact (within_lineText _).bind fun _ => .pure (List.suffix_refl _)
      · exact within_refuse _ _

theorem within_keyParts (most : Nat) (s : List Char) : Within s Prod.snd (keyParts most s) := by
  induction most generalizing s with
  | zero => exact .pure (List.suffix_refl s)
  | succ most ih =>
    have tail := skipSpaces_suffix s
    unfold keyParts
    split
    · rename_i rest found
      rw [found] at tail
      apply Within.of_suffix _ ((skipSpaces_suffix rest).trans (tail_suffix tail))
      exact (within_keyPart _).bind fun _ => (ih _).bind fun _ => .pure (List.suffix_refl _)
    · exact .pure tail

theorem within_readKey (s : List Char) : Within s Prod.snd (readKey s) :=
  (within_keyPart s).bind fun _ => (within_keyParts _ _).bind fun _ => .pure (List.suffix_refl _)

/-! ## Dates and times -/

theorem leaves_fixedDigits (count n : Nat) (s : List Char) : Leaves s Prod.snd (fixedDigits count n s) := by
  induction count generalizing n s with
  | zero => exact .some (List.suffix_refl s)
  | succ count ih =>
    cases s with
    | nil => exact .none
    | cons c rest =>
      have digit : Leaves (c :: rest) (fun _ => rest) (decimalDigit? c) := fun _ _ => List.suffix_cons c rest
      exact digit.bind fun d => ih _ rest

theorem leaves_twoDigits (low high : Nat) (s : List Char) : Leaves s Prod.snd (twoDigits low high s) := by
  refine (leaves_fixedDigits 2 0 s).bind fun a => ?_
  dsimp only
  split
  · exact .some (List.suffix_refl _)
  · exact .none

theorem leaves_mark? (c : Char) (s : List Char) : Leaves s id (mark? c s) := by
  unfold mark?
  split
  · split
    · exact .some (List.suffix_cons _ _)
    · exact .none
  · exact .none

theorem fraction_suffix (s : List Char) : (fraction s).2 <:+ s := by
  unfold fraction
  split
  · dsimp only
    split
    · exact List.suffix_refl _
    · exact (List.dropWhile_suffix _).trans (List.suffix_cons _ _)
  · exact List.suffix_refl s

theorem leaves_clockTime? (s : List Char) : Leaves s Prod.snd (clockTime? s) :=
  (leaves_twoDigits 0 23 s).bind fun _ => (leaves_mark? ':' _).bind fun _ =>
    (leaves_twoDigits 0 59 _).bind fun _ => (leaves_mark? ':' _).bind fun _ =>
      (leaves_twoDigits 0 59 _).bind fun _ => .some (fraction_suffix _)

theorem leaves_offsetMinutes? (s : List Char) : Leaves s Prod.snd (offsetMinutes? s) :=
  (leaves_twoDigits 0 23 s).bind fun _ => (leaves_mark? ':' _).bind fun _ =>
    (leaves_twoDigits 0 59 _).bind fun _ => .some (List.suffix_refl _)

theorem offset_suffix (s : List Char) : (offset s).2 <:+ s := by
  unfold offset
  split
  · exact List.suffix_refl _
  · rename_i c rest
    split
    · exact List.suffix_cons c rest
    · split
      · split
        · rename_i minutes after found
          exact (leaves_offsetMinutes? rest _ found).trans (List.suffix_cons c rest)
        · exact List.suffix_refl _
      · exact List.suffix_refl _

theorem leaves_dateParts? (s : List Char) : Leaves s Prod.snd (dateParts? s) :=
  (leaves_fixedDigits 4 0 s).bind fun _ => (leaves_mark? '-' _).bind fun _ =>
    (leaves_twoDigits 1 12 _).bind fun _ => (leaves_mark? '-' _).bind fun _ =>
      (leaves_twoDigits 1 31 _).bind fun _ => .some (List.suffix_refl _)

theorem leaves_timeAfterDate? (s : List Char) : Leaves s Prod.snd (timeAfterDate? s) := by
  unfold timeAfterDate?
  split
  · rename_i c rest
    split
    · exact fun a found => (leaves_clockTime? rest a found).trans (List.suffix_cons c rest)
    · exact .none
  · exact .none

theorem leaves_dateValue? (s : List Char) : Leaves s Prod.snd (dateValue? s) := by
  refine (leaves_dateParts? s).bind fun a => ?_
  dsimp only
  split
  · exact .some (List.suffix_refl _)
  · rename_i time rest found
    exact .some ((offset_suffix _).trans (leaves_timeAfterDate? _ _ found))

/-! ## Numbers -/

/-- The text starts with a run of digits and underscores that has these digits. -/
inductive Run (isMember : Char → Bool) : (s digits after : List Char) → Prop where
  | done (s : List Char) : Run isMember s [] s
  | digit {c : Char} {s digits after : List Char} (member : isMember c = true)
      (later : Run isMember s digits after) : Run isMember (c :: s) (c :: digits) after
  | underscore {s digits after : List Char} (later : Run isMember s digits after) :
      Run isMember ('_' :: s) digits after

section Run

variable {isMember : Char → Bool} {s digits after : List Char}

theorem run_of_digitRun (read : digitRun isMember s = (digits, after)) : Run isMember s digits after := by
  fun_induction digitRun isMember s generalizing digits after with
  | case2 c member =>
    cases read
    exact .digit member (.done [])
  | case4 c d rest member =>
    cases read
    exact .digit member (.done _)
  | case5 c d rest member inner between before none digits' after' found filled ih₁ ih₂ =>
    obtain ⟨-, rfl⟩ := none
    cases read
    exact .digit member (.underscore (ih₂ found))
  | case6 c d rest member inner after' found more ih =>
    cases read
    exact .digit member (ih found)
  | _ =>
    cases read
    exact .done _

theorem Run.suffix (run : Run isMember s digits after) : after <:+ s := by
  induction run with
  | done s => exact List.suffix_refl s
  | digit member later ih => exact ih.trans (List.suffix_cons _ _)
  | underscore later ih => exact ih.trans (List.suffix_cons _ _)

/-- A run of decimal digits is a prefix, which has no digits beside those of the run. -/
theorem Run.exists_prefix (run : Run Char.isDigit s digits after) : ∃ front, front <+: s
    ∧ (∀ c ∈ front, c.isDigit = true ∨ c = '_') ∧ front.filter Char.isDigit = digits := by
  induction run with
  | done s => exact ⟨[], List.nil_prefix, by simp, rfl⟩
  | @digit c s digits after member later ih =>
    obtain ⟨front, start, plain, same⟩ := ih
    exact ⟨c :: front, List.cons_prefix_cons.mpr ⟨rfl, start⟩, List.forall_mem_cons.mpr ⟨.inl member, plain⟩,
      by rw [List.filter_cons_of_pos member, same]⟩
  | @underscore s digits after later ih =>
    obtain ⟨front, start, plain, same⟩ := ih
    exact ⟨'_' :: front, List.cons_prefix_cons.mpr ⟨rfl, start⟩, List.forall_mem_cons.mpr ⟨.inr rfl, plain⟩,
      by rw [List.filter_cons_of_neg (by decide), same]⟩

theorem Run.overlong (run : Run Char.isDigit s digits after) (long : Text.Number.digitLimit < digits.length) :
    Overlong s digits.length := by
  obtain ⟨front, start, plain, rfl⟩ := run.exists_prefix
  exact ⟨long, front, start.isInfix, plain, rfl⟩

end Run

theorem leaves_basedInteger? (s : List Char) : Leaves s Prod.snd (basedInteger? s) := by
  unfold basedInteger?
  split
  case h_4 => exact .none
  all_goals
    dsimp only
    split
    · exact .none
    · rename_i found
      exact .some ((run_of_digitRun found).suffix.trans (List.suffix_append [_, _] _))

theorem run_of_integerPart? {s digits rest : List Char} (read : integerPart? s = some (digits, rest)) :
    Run Char.isDigit s digits rest := by
  unfold integerPart? at read
  split at read
  · cases read
    exact .digit rfl (.done _)
  · split at read
    · cases read
    · cases read
      exact run_of_digitRun ‹_›

theorem fractionPart_suffix (s : List Char) : (fractionPart s).2 <:+ s := by
  unfold fractionPart
  split
  · split
    · exact List.suffix_refl _
    · rename_i found
      exact (run_of_digitRun found).suffix.trans (List.suffix_cons _ _)
  · exact List.suffix_refl s

theorem signPart_suffix (s : List Char) : (signPart s).2 <:+ s := by
  unfold signPart
  split
  · exact List.suffix_cons _ _
  · exact List.suffix_cons _ _
  · exact List.suffix_refl s

theorem exponentPart_suffix (s : List Char) : (exponentPart s).2 <:+ s := by
  unfold exponentPart
  split
  · exact List.suffix_refl _
  · rename_i c rest
    dsimp only
    split
    · split
      · exact List.suffix_refl _
      · rename_i found
        exact (run_of_digitRun found).suffix.trans ((signPart_suffix rest).trans (List.suffix_cons c rest))
    · exact List.suffix_refl _

theorem within_decimalValue {s digits rest : List Char} (sign float : List Char)
    (long : Text.Number.digitLimit < digits.length → Overlong s digits.length) (tail : rest <:+ s) :
    Within s (fun _ => rest) (decimalValue sign digits float) := by
  unfold decimalValue
  split
  · split
    · exact long ‹_›
    · exact .pure tail
  · exact .pure tail

theorem within_number? {s rest : List Char} {v : Except Stop Value} (read : number? s = some (v, rest)) :
    Within s (fun _ => rest) v := by
  unfold number? at read
  split at read
  · rename_i n after found
    cases read
    exact leaves_basedInteger? s _ found
  · obtain ⟨⟨digits, after⟩, found, same⟩ := Option.bind_eq_some_iff.mp read
    cases same
    have run := run_of_integerPart? found
    have front := signPart_suffix s
    exact within_decimalValue _ _ (fun long => (run.overlong long).of_suffix front)
      ((exponentPart_suffix _).trans ((fractionPart_suffix _).trans (run.suffix.trans front)))

theorem leaves_namedNumber? (s : List Char) : Leaves s Prod.snd (namedNumber? s) := by
  have tail : (signPart s).2.drop 3 <:+ s := (List.drop_suffix _ _).trans (signPart_suffix s)
  unfold namedNumber?
  dsimp only
  split
  · exact .some tail
  · split
    · exact .some tail
    · exact .none

theorem within_scalar (s : List Char) : Within s Prod.snd (scalar s) := by
  unfold scalar
  split
  · rename_i v rest found
    split
    · exact .pure (leaves_dateValue? s _ found)
    · exact within_refuse _ _
  · split
    · rename_i t rest found
      exact .pure (leaves_clockTime? s _ found)
    · split
      · rename_i v rest found
        exact (within_number? found).bind fun _ => .pure (List.suffix_refl rest)
      · split
        · rename_i v rest found
          exact .pure (leaves_namedNumber? s _ found)
        · exact within_refuse _ _

end FeedSieve.Settings.Toml
