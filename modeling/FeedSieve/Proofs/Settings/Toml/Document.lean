import FeedSieve.Proofs.Settings.Toml.Scan
import FeedSieve.Settings.Toml.Document

/-!
# Integers of too many digits in a settings file

Values, statements and lines are read from tails of the file. Reading a file stops for an integer of too many digits
only if the file holds one (`overlong_of_readDocument`).
-/
namespace FeedSieve.Settings.Toml

theorem within_checked {α : Type} (result : Except Cause α) (s rest : List Char) :
    Within s (fun _ => s) (checked result rest) := by
  cases result with
  | ok a => exact List.suffix_refl s
  | error cause => trivial

/-! ## Values -/

theorem within_skipItemGaps (s : List Char) : Within s id (skipItemGaps s) := within_skipGaps _ s

mutual

theorem within_readValue : (steps : Nat) → (s : List Char) → Within s Prod.snd (readValue steps s)
  | 0, s => within_refuse _ _
  | steps + 1, [] => within_refuse _ _
  | steps + 1, c :: rest => by
    have tail := List.suffix_cons c rest
    unfold readValue
    dsimp only
    split
    · exact (within_anyText _).bind fun _ => .pure (List.suffix_refl _)
    split
    · exact .pure (List.drop_suffix _ _)
    split
    · exact .pure (List.drop_suffix _ _)
    split
    · apply Within.of_suffix _ tail
      exact (within_skipItemGaps rest).bind fun _ => (within_readItems steps _).bind fun _ =>
        .pure (List.suffix_refl _)
    split
    · have blank := skipSpaces_suffix rest
      split
      · rename_i after found
        rw [found] at blank
        exact .pure ((tail_suffix blank).trans tail)
      · apply Within.of_suffix _ (blank.trans tail)
        exact (within_readEntries steps _ _ _).bind fun _ => .pure (List.suffix_refl _)
    · exact within_scalar _

theorem within_readItems : (steps : Nat) → (s : List Char) → Within s Prod.snd (readItems steps s)
  | 0, s => within_refuse _ _
  | steps + 1, s => by
    unfold readItems
    split
    · exact .pure (List.tail_suffix s)
    · refine (within_readValue steps s).bind fun _ => (within_skipItemGaps _).bind fun after => ?_
      split
      · exact .pure (List.suffix_cons _ _)
      · rename_i rest
        apply Within.of_suffix _ (List.suffix_cons _ _)
        exact (within_skipItemGaps rest).bind fun _ => (within_readItems steps _).bind fun _ =>
          .pure (List.suffix_refl _)
      · exact within_refuse _ _

theorem within_readPair : (steps : Nat) → (s : List Char) → Within s Prod.snd (readPair steps s)
  | 0, s => within_refuse _ _
  | steps + 1, s => by
    unfold readPair
    refine (within_readKey s).bind fun a => ?_
    dsimp only
    split
    · rename_i rest found
      apply Within.of_suffix _ ((skipSpaces_suffix rest).trans _)
      · exact (within_readValue steps _).bind fun _ => .pure (List.suffix_refl _)
      · rw [found]
        exact List.suffix_cons _ _
    · exact within_refuse _ _

theorem within_readEntries : (steps : Nat) → (entries : Entries) → (marks : Marks) → (s : List Char) →
    Within s Prod.snd (readEntries steps entries marks s)
  | 0, entries, marks, s => within_refuse _ _
  | steps + 1, entries, marks, s => by
    unfold readEntries
    refine (within_readPair steps s).bind fun a => ?_
    dsimp only
    split
    · exact within_refuse _ _
    · have blank := skipSpaces_suffix a.2
      refine (within_checked _ _ _).bind fun entries => ?_
      split
      · rename_i after found
        rw [found] at blank
        exact .pure (tail_suffix blank)
      · rename_i after found
        rw [found] at blank
        apply Within.of_suffix _ ((skipSpaces_suffix _).trans (tail_suffix blank))
        exact within_readEntries steps _ _ _
      · exact within_refuse _ _

end

/-! ## Statements -/

theorem within_passTables (rest : List Char) (keys : List Key) (marks : Marks) (s : List Char) :
    Within s (fun _ => s) (passTables rest keys marks) := by
  induction keys generalizing marks with
  | nil => exact List.suffix_refl s
  | cons key keys ih =>
    unfold passTables
    split
    · exact within_refuse _ _
    · exact ih _

theorem within_entryStatement (state : State) (s : List Char) :
    Within s Prod.snd (entryStatement state s) := by
  unfold entryStatement
  refine (within_readPair _ s).bind fun a => ?_
  dsimp only
  refine (within_passTables _ _ _ _).bind fun marks => ?_
  split
  · exact within_refuse _ _
  · exact (within_checked _ _ _).bind fun _ => .pure (List.suffix_refl _)

theorem within_tableStatement (state : State) (s : List Char) :
    Within s Prod.snd (tableStatement state s) := by
  unfold tableStatement
  apply Within.of_suffix _ (skipSpaces_suffix s)
  refine (within_readKey _).bind fun a => ?_
  dsimp only
  split
  · exact within_refuse _ _
  · refine (within_checked _ _ _).bind fun entries => ?_
    split
    · rename_i rest found
      rw [found]
      exact .pure (List.suffix_cons _ _)
    · exact within_refuse _ _

theorem within_listStatement (state : State) (s : List Char) :
    Within s Prod.snd (listStatement state s) := by
  unfold listStatement
  apply Within.of_suffix _ (skipSpaces_suffix s)
  refine (within_readKey _).bind fun a => ?_
  dsimp only
  split
  · exact within_refuse _ _
  · refine (within_checked _ _ _).bind fun entries => ?_
    split
    · rename_i rest found
      rw [found]
      exact .pure (List.suffix_append [']', ']'] rest)
    · exact within_refuse _ _

theorem within_statement (state : State) (s : List Char) : Within s Prod.snd (statement state s) := by
  unfold statement
  split
  · exact .pure (List.suffix_refl _)
  · exact (within_listStatement _ _).of_suffix (List.suffix_append ['[', '['] _)
  · exact (within_tableStatement _ _).of_suffix (List.suffix_cons _ _)
  · split
    · exact within_entryStatement _ _
    · split
      · exact .pure (List.suffix_refl _)
      · exact within_refuse _ _

/-- Lines leave nothing. -/
theorem within_readLines (most : Nat) (state : State) (s : List Char) :
    Within s (fun _ => []) (readLines most state s) := by
  induction most generalizing state s with
  | zero => exact List.nil_suffix
  | succ most ih =>
    unfold readLines
    apply Within.of_suffix _ (skipSpaces_suffix s)
    refine (within_statement state _).bind fun a => ?_
    apply Within.of_suffix _ (skipSpaces_suffix a.2)
    refine (within_skipComment _).bind fun after => ?_
    split
    · exact .pure List.nil_suffix
    · exact (ih _ _).of_suffix (List.suffix_cons _ _)
    · exact within_refuse _ _

/-! ## The whole file -/

/-- Joining line breaks changes nothing in front of the first one. -/
theorem prefix_of_joinBreaks {run text : List Char} (start : run <+: joinBreaks text)
    (unbroken : '\n' ∉ run) : run <+: text := by
  cases run with
  | nil => exact List.nil_prefix
  | cons d run =>
    fun_induction joinBreaks text generalizing d run with
    | case1 rest ih =>
      obtain ⟨rfl, -⟩ := List.cons_prefix_cons.mp start
      exact absurd List.mem_cons_self unbroken
    | case2 c rest other ih =>
      obtain ⟨rfl, later⟩ := List.cons_prefix_cons.mp start
      refine List.cons_prefix_cons.mpr ⟨rfl, ?_⟩
      cases run with
      | nil => exact List.nil_prefix
      | cons e run => exact ih e run later fun member => unbroken (List.mem_cons_of_mem _ member)
    | case3 => exact start

theorem infix_of_joinBreaks {run text : List Char} (part : run <:+: joinBreaks text)
    (unbroken : '\n' ∉ run) : run <:+: text := by
  fun_induction joinBreaks text with
  | case1 rest ih =>
    rcases List.infix_cons_iff.mp part with start | later
    · have start : run <+: joinBreaks ('\r' :: '\n' :: rest) := start
      exact (prefix_of_joinBreaks start unbroken).isInfix
    · exact (ih later).trans (List.suffix_append ['\r', '\n'] rest).isInfix
  | case2 c rest other ih =>
    rcases List.infix_cons_iff.mp part with start | later
    · rw [← joinBreaks.eq_2 c rest other] at start
      exact (prefix_of_joinBreaks start unbroken).isInfix
    · exact (ih later).trans (List.suffix_cons c rest).isInfix
  | case3 => exact part

/-- A file that stops reading with too many digits holds an integer of that many. -/
theorem overlong_of_readDocument {text : List Char} {digits : Nat}
    (stopped : readDocument text = .error (.tooManyDigits digits)) : Overlong text digits := by
  have within := within_readLines ((joinBreaks text).length + 1) ⟨[], .empty, []⟩ (joinBreaks text)
  unfold readDocument at stopped
  dsimp only at stopped
  split at stopped
  · cases stopped
  · cases stopped
  · rename_i count read
    cases stopped
    rw [read] at within
    obtain ⟨above, run, part, plain, length⟩ := within
    refine ⟨above, run, infix_of_joinBreaks part fun broken => ?_, plain, length⟩
    rcases plain _ broken with digit | underscore
    · cases digit
    · cases underscore

end FeedSieve.Settings.Toml
