import FeedSieve.Proofs.Text.Binary64
import FeedSieve.Proofs.Value
import FeedSieve.Settings.Config

/-!
# Values converted for settings

For each conversion, the values that it takes and those that break it down. It refuses the others. A conversion to a
text breaks nothing down.
-/
namespace FeedSieve.Settings

/-! ## Texts and forms of the log -/

theorem textOf_ok_iff {v : Value} : (∃ s, textOf v = .ok s) ↔ ¬ v.HoldsLong := by
  rw [← Value.display?_eq_none_iff, textOf]
  cases v.display? <;> simp

theorem textOf_ne_breakdown (v : Value) (b : Breakdown) : textOf v ≠ .error (.breakdown b) := by
  unfold textOf
  split <;> simp

/-- A value for the form of the log names one, or is shown as refused, or cannot be shown. -/
theorem logFormOf_cases (v : Value) : (∃ form : LogForm, v = .text form.name ∧ logFormOf v = .ok form)
    ∨ (∀ form : LogForm, v ≠ .text form.name) ∧ logFormOf v = match v.shown? with
      | some shown => .error (.refused (.logForm shown))
      | none => .error (.breakdown .unprintable) := by
  unfold logFormOf
  split
  · exact .inl ⟨.console, rfl, rfl⟩
  · exact .inl ⟨.json, rfl, rfl⟩
  · rename_i notConsole notJson
    refine .inr ⟨fun form => ?_, rfl⟩
    cases form with
    | console => exact notConsole
    | json => exact notJson

theorem logFormOf_ok_iff {v : Value} :
    (∃ form, logFormOf v = .ok form) ↔ ∃ form : LogForm, v = .text form.name := by
  rcases logFormOf_cases v with ⟨form, rfl, named⟩ | ⟨none, refused⟩
  · exact iff_of_true ⟨form, named⟩ ⟨form, rfl⟩
  · apply iff_of_false
    · rintro ⟨form, named⟩
      rw [refused] at named
      split at named <;> cases named
    · exact fun ⟨form, same⟩ => none form same

theorem logFormOf_breakdown_iff {v : Value} {b : Breakdown} :
    logFormOf v = .error (.breakdown b) ↔ v.HoldsLong ∧ b = .unprintable := by
  rw [← Value.shown?_eq_none_iff]
  rcases logFormOf_cases v with ⟨form, rfl, named⟩ | ⟨none, refused⟩
  · rw [named]
    simp [Value.shown?]
  · rw [refused]
    cases v.shown? <;> simp [eq_comm]

/-! ## Integers -/

inductive HasInteger : Value → Prop where
  | flag (b : Bool) : HasInteger (.boolean b)
  | integer (n : Int) : HasInteger (.integer n)
  | real (negative : Bool) (significand : Nat) (exponent : Int) :
      HasInteger (.real (.finite negative significand exponent))
  | text {text : String} {n : Int} (spelled : Text.Number.int? text = .ok n) : HasInteger (.text text)

theorem integerOf_ok_iff {v : Value} : (∃ n, integerOf v = .ok n) ↔ HasInteger v := by
  cases v with
  | boolean b => exact iff_of_true ⟨_, rfl⟩ (.flag b)
  | integer n => exact iff_of_true ⟨_, rfl⟩ (.integer n)
  | real x =>
    cases x with
    | finite negative significand exponent =>
      exact iff_of_true ⟨_, rfl⟩ (.real negative significand exponent)
    | _ => exact iff_of_false nofun nofun
  | text s =>
    cases spelled : Text.Number.int? s with
    | ok n => exact iff_of_true ⟨n, by simp [integerOf, spelled]⟩ (.text spelled)
    | error e =>
      apply iff_of_false
      · rintro ⟨n, read⟩
        cases e <;> simp [integerOf, spelled] at read
      · rintro ⟨⟩
        simp_all
  | _ => exact iff_of_false nofun nofun

theorem integerOf_breakdown_iff {v : Value} {b : Breakdown} :
    integerOf v = .error (.breakdown b) ↔ (∃ negative, v = .real (.infinite negative)) ∧ b = .infinite := by
  cases v with
  | real x => cases x <;> simp [integerOf, eq_comm]
  | text s =>
    rw [integerOf]
    split <;> simp
  | _ => simp [integerOf]

/-! ## Real numbers -/

inductive HasReal : Value → Prop where
  | flag (b : Bool) : HasReal (.boolean b)
  | integer {n : Int} (small : n.natAbs < Text.Binary64.overflow) : HasReal (.integer n)
  | real (x : Text.Binary64) : HasReal (.real x)
  | text {text : String} {x : Text.Binary64} (spelled : Text.Binary64.ofText? text = some x) : HasReal (.text text)

theorem realOfInt_of_small {n : Int} (small : n.natAbs < Text.Binary64.overflow) :
    realOfInt n = .ok (Text.Binary64.ofInt n) := by
  unfold realOfInt
  split
  · rename_i negative infinite
    have large := Text.Binary64.ofInt_infinite_iff.mp ⟨negative, infinite⟩
    omega
  · rfl

theorem realOfInt_of_large {n : Int} (large : Text.Binary64.overflow ≤ n.natAbs) :
    realOfInt n = .error (.breakdown .tooLarge) := by
  obtain ⟨negative, infinite⟩ := Text.Binary64.ofInt_infinite_iff.mpr large
  rw [realOfInt, infinite]

theorem realOfInt_flag (b : Bool) : ∃ x, realOfInt (if b then 1 else 0) = .ok x := by
  refine ⟨_, realOfInt_of_small ?_⟩
  have positive : 1 < Text.Binary64.overflow :=
    Nat.lt_of_lt_of_le (by decide) (Nat.le_mul_of_pos_right _ Text.Binary64.halfUnit_pos)
  cases b with
  | false => exact Nat.lt_trans (by decide) positive
  | true => exact positive

theorem realOf_ok_iff {v : Value} : (∃ x, realOf v = .ok x) ↔ HasReal v := by
  cases v with
  | boolean b => exact iff_of_true (realOfInt_flag b) (.flag b)
  | integer n =>
    by_cases small : n.natAbs < Text.Binary64.overflow
    · exact iff_of_true ⟨_, realOfInt_of_small small⟩ (.integer small)
    · apply iff_of_false
      · rw [realOf, realOfInt_of_large (Nat.le_of_not_lt small)]
        nofun
      · rintro ⟨⟩
        contradiction
  | real x => exact iff_of_true ⟨x, rfl⟩ (.real x)
  | text s =>
    cases spelled : Text.Binary64.ofText? s with
    | some x => exact iff_of_true ⟨x, by simp [realOf, spelled]⟩ (.text spelled)
    | none =>
      apply iff_of_false
      · simp [realOf, spelled]
      · rintro ⟨⟩
        simp_all
  | _ => exact iff_of_false nofun nofun

theorem realOf_breakdown_iff {v : Value} {b : Breakdown} : realOf v = .error (.breakdown b) ↔
    (∃ n, v = .integer n ∧ Text.Binary64.overflow ≤ n.natAbs) ∧ b = .tooLarge := by
  cases v with
  | boolean flag =>
    obtain ⟨x, read⟩ := realOfInt_flag flag
    simp [realOf, read]
  | integer n =>
    by_cases small : n.natAbs < Text.Binary64.overflow
    · simp [realOf, realOfInt_of_small small, Nat.not_le_of_lt small]
    · have large := Nat.le_of_not_lt small
      simp [realOf, realOfInt_of_large large, large, eq_comm]
  | text s =>
    rw [realOf]
    split <;> simp
  | _ => simp [realOf]

end FeedSieve.Settings
