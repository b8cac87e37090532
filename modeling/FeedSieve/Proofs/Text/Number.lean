import FeedSieve.Text.Number
import FeedSieve.Time.Instant

/-!
# Plain decimal digits

A non-empty run of plain digits that is not too long is read as the number it stands for, and a number
written with a fixed count of digits is such a run.
-/
namespace FeedSieve.Text.Number

def Plain (s : List Char) : Prop := ∀ c ∈ s, c.isDigit = true

theorem toNat_of_isDigit {c : Char} (h : c.isDigit = true) : 48 ≤ c.toNat ∧ c.toNat ≤ 57 := by
  simp only [Char.isDigit, Bool.and_eq_true, decide_eq_true_eq] at h
  exact ⟨UInt32.le_iff_toNat_le.mp h.1, UInt32.le_iff_toNat_le.mp h.2⟩

theorem digitValue?_of_isDigit {c : Char} (h : c.isDigit = true) :
    Class.digitValue? c = some (c.toNat - 48) := by
  have range := toNat_of_isDigit h
  simp [Class.digitValue?, range]

theorem isPadding_of_isDigit {c : Char} (h : c.isDigit = true) : isPadding c = false := by
  have range := toNat_of_isDigit h
  have solid : Class.isBlank c = false := by
    simp only [Class.isBlank, Bool.or_eq_false_iff, Bool.and_eq_false_iff, decide_eq_false_iff_not,
      beq_eq_false_iff_ne]
    omega
  simp [isPadding, solid]

theorem dropWhile_isPadding {s : List Char} (h : Plain s) : s.dropWhile isPadding = s := by
  cases s with
  | nil => rfl
  | cons c rest => rw [List.dropWhile_cons_of_neg (by simp [isPadding_of_isDigit (h c (by simp))])]

theorem trimPadding_of_plain {s : List Char} (h : Plain s) : trimPadding s = s := by
  have reversed : Plain s.reverse := fun c member => h c (List.mem_reverse.mp member)
  rw [trimPadding, dropWhile_isPadding h, dropWhile_isPadding reversed, List.reverse_reverse]

theorem digitsAfter_cons {c : Char} (h : c.isDigit = true) (rest : List Char) :
    digitsAfter (c :: rest) = ((c.toNat - 48) :: (digitsAfter rest).1, (digitsAfter rest).2) := by
  cases rest with
  | nil => simp [digitsAfter, digitValue?_of_isDigit h]
  | cons e rest => simp [digitsAfter, digitValue?_of_isDigit h]

theorem digitsAfter_of_plain {s : List Char} (h : Plain s) :
    digitsAfter s = (s.map fun c => c.toNat - 48, []) := by
  induction s with
  | nil => rfl
  | cons c rest ih =>
    have plainRest : Plain rest := fun d member => h d (List.mem_cons_of_mem c member)
    rw [digitsAfter_cons (h c List.mem_cons_self), ih plainRest, List.map_cons]

theorem ofDigits_eq (s : List Char) :
    ofDigits (s.map fun c => c.toNat - 48) = Nat.ofDigitChars 10 s 0 := by
  simp [ofDigits, Nat.ofDigitChars, List.foldl_map, Nat.mul_comm]

theorem splitSign_of_isDigit {c : Char} (h : c.isDigit = true) (rest : List Char) :
    splitSign (c :: rest) = (false, c :: rest) := by
  unfold splitSign
  split
  · simp_all [Char.isDigit]
  · simp_all [Char.isDigit]
  · rfl

/-- A run of plain digits is read as the number it stands for. -/
theorem int?_of_plain {s : List Char} (h : Plain s) (nonempty : s ≠ [])
    (short : s.length ≤ digitLimit) :
    int? (String.ofList s) = .ok (Nat.ofDigitChars 10 s 0 : Nat) := by
  obtain ⟨c, rest, rfl⟩ := List.exists_cons_of_ne_nil nonempty
  have digit := h c List.mem_cons_self
  have plainRest : Plain rest := fun d member => h d (List.mem_cons_of_mem c member)
  have digits : digits? (c :: rest) = some ((c :: rest).map fun c => c.toNat - 48, []) := by
    simp [digits?, digitValue?_of_isDigit digit, digitsAfter_of_plain plainRest]
  have limit : ¬ digitLimit < ((c :: rest).map fun c => c.toNat - 48).length := by
    rw [List.length_map]
    omega
  simp only [int?, String.toList_ofList, trimPadding_of_plain h, splitSign_of_isDigit digit, digits,
    List.head?_nil, reduceCtorEq, if_false, limit, ofDigits_eq]
  rfl

/-- A number is read from its text. -/
theorem int?_toString {n : Nat} (short : (Nat.toDigits 10 n).length ≤ digitLimit) :
    int? (toString n) = .ok (n : Nat) := by
  have plain : Plain (Nat.toDigits 10 n) := fun c member =>
    Nat.isDigit_of_mem_toDigits (by decide) (by decide) member
  rw [Nat.toString_eq_ofList_toDigits, int?_of_plain plain Nat.toDigits_ne_nil short]
  simp

end FeedSieve.Text.Number
