import FeedSieve.Proofs.Text.Utf8
import FeedSieve.Text.Case

/-!
# Lower case and ASCII

Lowering follows the full tables: a text may get longer, and a character may depend on its neighbours. Little of
this reaches ASCII, for only two characters beyond ASCII are lowered to ASCII letters, the dotted capital I and
the Kelvin sign. So a text of other ASCII characters starts a lowered text exactly if it starts the text itself,
character by character and up to the case of ASCII letters (`prefix_lower_iff`).
-/
namespace FeedSieve.Text.Case

/-! ## The table -/

/-- A run of a case table moves its characters to characters beyond ASCII. -/
def MovesBeyond : Nat × Nat × Nat × Nat → Prop
  | (first, last, _, image) =>
    128 ≤ image
      ∧ (image + (last - first) < 0xD800 ∨ 0xDFFF < image ∧ image + (last - first) < 0x110000)

instance (run : Nat × Nat × Nat × Nat) : Decidable (MovesBeyond run) :=
  inferInstanceAs (Decidable (_ ∧ (_ ∨ _ ∧ _)))

def kelvinRun : Nat × Nat × Nat × Nat := (0x212A, 0x212A, 1, 'k'.toNat)

theorem lowerRuns_cases :
    ∀ run ∈ lowerRuns.toList, run.2.1 < 128 ∨ MovesBeyond run ∨ run = kelvinRun := by decide +kernel

theorem MovesBeyond.le_toNat {first last step image n : Nat}
    (moves : MovesBeyond (first, last, step, image)) (low : first ≤ n) (high : n ≤ last) :
    128 ≤ (Char.ofNat (image + (n - first))).toNat := by
  obtain ⟨beyond, inRange⟩ := moves
  have valid : (image + (n - first)).isValidChar := by
    unfold Nat.isValidChar
    omega
  rw [Utf8.toNat_ofNat valid]
  omega

theorem shifted?_lowerRuns {c d : Char} (beyond : 128 ≤ c.toNat) (moved : shifted? lowerRuns c = some d) :
    128 ≤ d.toNat ∨ d = 'k' := by
  obtain ⟨⟨first, last, step, image⟩, found, rfl⟩ := Option.map_eq_some_iff.mp moved
  have listed := Array.mem_toList_iff.mpr (Array.mem_of_find?_eq_some found)
  have inside := Array.find?_some found
  simp only [Bool.and_eq_true, decide_eq_true_eq] at inside
  obtain ⟨⟨low, high⟩, -⟩ := inside
  rcases lowerRuns_cases _ listed with ascii | moves | kelvin
  · exact absurd (Nat.le_trans beyond high) (Nat.not_le.mpr ascii)
  · exact .inl (moves.le_toNat low high)
  · cases kelvin
    have here : c.toNat - 0x212A = 0 := Nat.sub_eq_zero_of_le high
    right
    dsimp only
    rw [here]
    rfl

/-! ## Characters -/

/-- An ASCII character other than the two letters that characters beyond ASCII are lowered to. -/
def Own (c : Char) : Prop := c.toNat < 128 ∧ c ≠ 'i' ∧ c ≠ 'k'

instance (c : Char) : Decidable (Own c) := inferInstanceAs (Decidable (_ ∧ _ ∧ _))

section Beyond

variable {c : Char} (beyond : 128 ≤ c.toNat)

include beyond

theorem not_own_of_beyond : ¬ Own c := fun own => Nat.not_lt.mpr beyond own.1

theorem not_own_lowerChar : ¬ Own (lowerChar c) := by
  rw [lowerChar, if_neg (Nat.not_lt.mpr beyond)]
  split
  · decide
  · cases moved : shifted? lowerRuns c with
    | none => exact not_own_of_beyond beyond
    | some d =>
      rw [Option.getD_some]
      rcases shifted?_lowerRuns beyond moved with further | rfl
      · exact not_own_of_beyond further
      · decide

theorem toLower_of_beyond : c.toLower = c := by
  unfold Char.toLower
  refine dif_neg fun upper => ?_
  have below : c.toNat ≤ 'Z'.toNat := upper.2
  exact absurd (Nat.le_trans beyond below) (by decide)

/-- The form of a character beyond ASCII may be longer and depend on its neighbours, but it does not start
with one of ASCII's own. -/
theorem exists_lowerAfter_beyond (before rest : List Char) :
    ∃ d after, lowerAfter before (c :: rest) = d :: after ∧ ¬ Own d := by
  rw [lowerAfter, if_neg (Nat.not_lt.mpr beyond)]
  split
  · refine ⟨_, _, rfl, ?_⟩
    split <;> decide
  · split
    · exact ⟨_, _, rfl, by decide⟩
    · exact ⟨_, _, rfl, not_own_lowerChar beyond⟩

end Beyond

theorem lowerAfter_ascii {c : Char} (ascii : c.toNat < 128) (before rest : List Char) :
    lowerAfter before (c :: rest) = c.toLower :: lowerAfter (c :: before) rest := by
  rw [lowerAfter, if_pos ascii]
  rfl

/-! ## Texts -/

section Start

variable {start : List Char} (own : ∀ d ∈ start, Own d)

include own

theorem prefix_lowerAfter_iff (before s : List Char) :
    start <+: lowerAfter before s ↔ start <+: s.map Char.toLower := by
  -- At the first character beyond ASCII the start is over, or neither side has it.
  induction start generalizing before s with
  | nil => simp
  | cons d start ih =>
    cases s with
    | nil => rfl
    | cons c rest =>
      rcases Nat.lt_or_ge c.toNat 128 with ascii | beyond
      · rw [lowerAfter_ascii ascii, List.map_cons, List.cons_prefix_cons, List.cons_prefix_cons,
          ih fun d member => own d (List.mem_cons_of_mem _ member)]
      · obtain ⟨first, after, lowered, notOwn⟩ := exists_lowerAfter_beyond beyond before rest
        rw [lowered, List.map_cons, toLower_of_beyond beyond, List.cons_prefix_cons,
          List.cons_prefix_cons]
        have here : Own d := own d List.mem_cons_self
        constructor
        · rintro ⟨rfl, -⟩
          exact absurd here notOwn
        · rintro ⟨rfl, -⟩
          exact absurd here (not_own_of_beyond beyond)

/-- A text of ASCII's own characters starts a lowered text exactly if it starts the text up to the case of
ASCII letters. -/
theorem prefix_lower_iff (s : String) :
    start <+: (lower s).toList ↔ start <+: s.toList.map Char.toLower := by
  rw [lower, String.toList_ofList, prefix_lowerAfter_iff own]

end Start

end FeedSieve.Text.Case
