import Mathlib.Algebra.Group.Nat.Defs
import FeedSieve.Text.Binary64

/-!
# Integers as double-precision numbers

The number nearest to an integer is infinite exactly for the integers that are at least as far from zero as the
middle between the greatest finite number and the power of two behind it (`ofInt_infinite_iff`).
-/
namespace FeedSieve.Text.Binary64

/-- Half a unit in the last place of the greatest numbers. -/
def halfUnit : Nat := 2 ^ 970

/-- The least natural number that rounds to infinity: `2 ^ 1024 - 2 ^ 970`. -/
def overflow : Nat := (2 ^ 54 - 1) * halfUnit

/-- A quotient rounds to the top of its binade exactly from half a unit below. -/
theorem roundDiv_eq_top_iff {a half : Nat} (below : a < 2 ^ 53 * (2 * half)) :
    roundDiv a (2 * half) = 2 ^ 53 ↔ (2 ^ 54 - 1) * half ≤ a := by
  have positive : 0 < 2 * half := by omega
  have division := Nat.div_add_mod a (2 * half)
  have rest := Nat.mod_lt a positive
  have quotient : a / (2 * half) < 2 ^ 53 := (Nat.div_lt_iff_lt_mul positive).mpr below
  unfold roundDiv
  dsimp only
  generalize a % (2 * half) = r at *
  generalize a / (2 * half) = q at *
  -- Only from the last quotient below it is the top reached, by a rest of at least one half.
  by_cases last : q = 2 ^ 53 - 1
  · subst last
    split
    · omega
    · split
      · omega
      · split <;> omega
  · have lower : 2 * half * q ≤ 2 * half * (2 ^ 53 - 2) := Nat.mul_le_mul_left _ (by omega)
    split
    · omega
    · split
      · omega
      · split <;> omega

/-- The 53 digits of an integer in front of the point end where its binary digits tell. -/
theorem lastExponent_integer {m : Nat} (positive : m ≠ 0) : lastExponent m 1 = m.log2 - 52 := by
  have one : Nat.log2 1 = 0 := by decide
  have low : 2 ^ m.log2 ≤ m := Nat.log2_self_le positive
  have guess : (m.log2 : Int) - (Nat.log2 1 : Nat) - 52 = m.log2 - 52 := by omega
  -- The first guess is right: scaled by it, the number has its 53 bits.
  have enough : ¬ (scaled m 1 (-((m.log2 : Int) - 52))).1
      < (scaled m 1 (-((m.log2 : Int) - 52))).2 * Nat.pow 2 52 := by
    unfold scaled
    simp only [Nat.pow_eq]
    split
    · rename_i short
      have digits : 2 ^ m.log2 * 2 ^ (-((m.log2 : Int) - 52)).toNat = 2 ^ 52 := by
        rw [← Nat.pow_add]
        congr 1
        omega
      have raised := Nat.mul_le_mul_right (2 ^ (-((m.log2 : Int) - 52)).toNat) low
      omega
    · rename_i long
      have digits : 2 ^ (-(-((m.log2 : Int) - 52))).toNat * 2 ^ 52 = 2 ^ m.log2 := by
        rw [← Nat.pow_add]
        congr 1
        omega
      omega
  unfold lastExponent
  simp only [guess, if_neg enough]
  omega

theorem ofRounded_infinite_iff {negative : Bool} {m : Nat} {exponent : Int} :
    (∃ n, ofRounded negative m exponent = .infinite n) ↔
      971 < exponent ∨ (exponent = 971 ∧ m = 2 ^ 53) := by
  unfold ofRounded
  simp only [Nat.pow_eq]
  split
  · rename_i top
    split <;> simp <;> omega
  · rename_i top
    split <;> simp <;> omega

/-- A power of two, split into half a unit and the rest. -/
theorem two_pow_eq {a i : Nat} (exponent : a = i + 970) : 2 ^ a = 2 ^ i * halfUnit := by
  rw [exponent]
  unfold halfUnit
  generalize 970 = k
  exact Nat.pow_add 2 i k

theorem two_pow_le {a i : Nat} (exponent : a ≤ i + 970) : 2 ^ a ≤ 2 ^ i * halfUnit := by
  rw [← two_pow_eq rfl]
  exact Nat.pow_le_pow_right (by decide) exponent

theorem le_two_pow {a i : Nat} (exponent : i + 970 ≤ a) : 2 ^ i * halfUnit ≤ 2 ^ a := by
  rw [← two_pow_eq rfl]
  exact Nat.pow_le_pow_right (by decide) exponent

theorem halfUnit_pos : 0 < halfUnit := by
  unfold halfUnit
  generalize 970 = k
  exact Nat.two_pow_pos k

/-- What lies in the last binade rounds to its top from the bound on. -/
theorem overflow_le_iff {m : Nat} (positive : m ≠ 0) : overflow ≤ m ↔
    1023 < m.log2 ∨ (m.log2 = 1023 ∧ roundDiv m (2 ^ (m.log2 - 52)) = 2 ^ 53) := by
  have low : 2 ^ m.log2 ≤ m := Nat.log2_self_le positive
  have high : m < 2 ^ (m.log2 + 1) := Nat.lt_log2_self
  have some := halfUnit_pos
  unfold overflow
  rcases Nat.lt_trichotomy m.log2 1023 with before | same | beyond
  · have below : 2 ^ (m.log2 + 1) ≤ 2 ^ 53 * halfUnit := two_pow_le (by omega)
    omega
  · have top : 2 ^ (m.log2 + 1) = 2 ^ 54 * halfUnit := two_pow_eq (by omega)
    have unit : 2 ^ (m.log2 - 52) = 2 ^ 1 * halfUnit := two_pow_eq (by omega)
    have below : m < 2 ^ 53 * (2 * halfUnit) := by omega
    rw [unit, Nat.pow_one, roundDiv_eq_top_iff below]
    omega
  · have above : 2 ^ 54 * halfUnit ≤ 2 ^ m.log2 := le_two_pow (by omega)
    omega

theorem scaled_integer {m : Nat} (long : 52 < m.log2) :
    scaled m 1 (-((m.log2 : Int) - 52)) = (m, 2 ^ (m.log2 - 52)) := by
  have shift : (-(-((m.log2 : Int) - 52))).toNat = m.log2 - 52 := by omega
  rw [scaled, if_neg (by omega), shift, Nat.one_mul, Nat.pow_eq]

/-- The number nearest to an integer is infinite exactly if the integer is too large. -/
theorem ofInt_infinite_iff {n : Int} : (∃ negative, ofInt n = .infinite negative) ↔ overflow ≤ n.natAbs := by
  unfold ofInt ofRatio
  generalize n.natAbs = m
  by_cases zero : m = 0
  · have positive : 0 < overflow := Nat.mul_pos (by decide) halfUnit_pos
    rw [if_pos zero]
    constructor
    · rintro ⟨negative, ⟨⟩⟩
    · omega
  · rw [if_neg zero, overflow_le_iff zero]
    dsimp only
    rw [lastExponent_integer zero, ofRounded_infinite_iff]
    constructor
    · rintro (beyond | ⟨same, top⟩)
      · exact .inl (by omega)
      · rw [scaled_integer (by omega)] at top
        exact .inr ⟨by omega, top⟩
    · rintro (beyond | ⟨same, top⟩)
      · exact .inl (by omega)
      · rw [scaled_integer (by omega)]
        exact .inr ⟨by omega, top⟩

end FeedSieve.Text.Binary64
