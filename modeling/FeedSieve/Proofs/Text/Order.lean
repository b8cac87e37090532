import FeedSieve.Proofs.Text.Number

/-!
# Numerals in the order of texts

Texts are compared character by character. Numerals of one length are so compared as the numbers they stand
for (`lt_iff_ofDigitChars`), and texts that begin with them by these first (`append_lt_append_iff`). Numerals of
different lengths that end in a mark below all digits are compared as they stand (`append_mark_lt_iff`).
-/
namespace FeedSieve.Text.Number

/-- Texts whose first parts are of one length are compared by these first. -/
theorem append_lt_append_iff {s s' : List Char} (length : s.length = s'.length) (rest rest' : List Char) :
    s ++ rest < s' ++ rest' ↔ s < s' ∨ s = s' ∧ rest < rest' := by
  induction s generalizing s' with
  | nil =>
    obtain rfl := List.length_eq_zero_iff.mp length.symm
    simp
  | cons c s ih =>
    cases s' with
    | nil => simp at length
    | cons c' s' =>
      simp only [List.cons_append, List.cons_lt_cons_iff, ih (Nat.succ.inj length), List.cons.injEq,
        and_or_left, or_assoc, and_assoc]

/-- Texts that begin with digits and a mark below all digits are compared by the digits first. -/
theorem append_mark_lt_iff {mark : Char} (low : ∀ c : Char, c.isDigit = true → mark < c) {s s' : List Char}
    (plain : Plain s) (plain' : Plain s') (rest rest' : List Char) :
    s ++ mark :: rest < s' ++ mark :: rest' ↔ s < s' ∨ s = s' ∧ rest < rest' := by
  -- The mark is below every digit, and so decides as the end of a text would.
  induction s generalizing s' with
  | nil =>
    cases s' with
    | nil => simp
    | cons c' s' =>
      have below := low c' (plain' c' List.mem_cons_self)
      simp [List.cons_lt_cons_iff, below]
  | cons c s ih =>
    have digit := plain c List.mem_cons_self
    cases s' with
    | nil =>
      have above : ¬ c < mark := Char.lt_asymm (low c digit)
      have other : c ≠ mark := fun same => Char.lt_irrefl mark (same ▸ low c digit)
      simp [List.cons_lt_cons_iff, above, other]
    | cons c' s' =>
      have later := ih (fun d member => plain d (List.mem_cons_of_mem c member))
        (fun d member => plain' d (List.mem_cons_of_mem c' member))
      simp only [List.cons_append, List.cons_lt_cons_iff, later, List.cons.injEq, and_or_left,
        or_assoc, and_assoc]

/-- Numerals of one length that continue numbers are compared by these first. -/
theorem ofDigitChars_lt_iff {s s' : List Char} (plain : Plain s) (plain' : Plain s')
    (length : s.length = s'.length) (n n' : Nat) :
    Nat.ofDigitChars 10 s n < Nat.ofDigitChars 10 s' n' ↔ n < n' ∨ n = n' ∧ s < s' := by
  induction s generalizing s' n n' with
  | nil =>
    obtain rfl := List.length_eq_zero_iff.mp length.symm
    simp
  | cons c s ih =>
    cases s' with
    | nil => simp at length
    | cons c' s' =>
      have digit := toNat_of_isDigit (plain c List.mem_cons_self)
      have digit' := toNat_of_isDigit (plain' c' List.mem_cons_self)
      have order : c < c' ↔ c.toNat < c'.toNat := UInt32.lt_iff_toNat_lt
      have zero : '0'.toNat = 48 := rfl
      have later := ih (fun d member => plain d (List.mem_cons_of_mem c member))
        (fun d member => plain' d (List.mem_cons_of_mem c' member)) (Nat.succ.inj length)
      rw [Nat.ofDigitChars_cons, Nat.ofDigitChars_cons, later, List.cons_lt_cons_iff, ← Char.toNat_inj,
        order, zero]
      -- With as many places behind it, the first digit that differs decides.
      by_cases lower : s < s' <;> simp only [lower, and_true, and_false, or_false] <;> omega

/-- Numerals of one length are compared as the numbers they stand for. -/
theorem lt_iff_ofDigitChars {s s' : List Char} (plain : Plain s) (plain' : Plain s')
    (length : s.length = s'.length) : s < s' ↔ Nat.ofDigitChars 10 s 0 < Nat.ofDigitChars 10 s' 0 := by
  rw [ofDigitChars_lt_iff plain plain' length]
  simp

end FeedSieve.Text.Number
