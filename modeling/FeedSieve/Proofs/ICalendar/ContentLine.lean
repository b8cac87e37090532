import FeedSieve.ICalendar.ContentLine
import FeedSieve.Proofs.ICalendar.Escape

/-!
# Lines without parameters

A line of a name in capital letters, a colon and a value is read as that name and what the value stands
for (`ContentLine.parse_named`).
-/
namespace FeedSieve.ICalendar

structure Capital (name : List Char) : Prop where
  nonempty : name ≠ []
  upper : ∀ c ∈ name, c.isUpper = true

instance (name : List Char) : Decidable (Capital name) :=
  decidable_of_iff (name ≠ [] ∧ name.all Char.isUpper = true)
    ⟨fun h => ⟨h.1, List.all_eq_true.mp h.2⟩, fun h => ⟨h.nonempty, List.all_eq_true.mpr h.upper⟩⟩

theorem code_of_isUpper {c : Char} (h : c.isUpper = true) : 65 ≤ c.toNat ∧ c.toNat ≤ 90 := by
  have range : 'A'.val ≤ c.val ∧ c.val ≤ 'Z'.val := of_decide_eq_true h
  exact ⟨UInt32.le_iff_toNat_le.mp range.1, UInt32.le_iff_toNat_le.mp range.2⟩

/-- A capital letter is a letter: its code point lies in the table. -/
theorem isWord_of_isUpper {c : Char} (h : c.isUpper = true) : Text.Class.isWord c = true := by
  have listed : ∀ n : Fin 26, Text.Ranges.mem Text.Class.wordRanges (65 + n.val) = true := by
    decide +kernel
  obtain ⟨low, high⟩ := code_of_isUpper h
  have member := listed ⟨c.toNat - 65, by omega⟩
  have code : 65 + (c.toNat - 65) = c.toNat := by omega
  rw [code] at member
  rw [Text.Class.isWord, Text.Class.isAlphanumeric, member, Bool.or_true]

theorem upperForm_of_isUpper {c : Char} (h : c.isUpper = true) : Text.Case.upperForm c = [c] := by
  obtain ⟨low, high⟩ := code_of_isUpper h
  have ascii : c.toNat < 128 := by omega
  have same : c.toUpper = c := by
    refine dif_neg fun lower => ?_
    have small := UInt32.le_iff_toNat_le.mp lower.1
    change 97 ≤ c.toNat at small
    omega
  rw [Text.Case.upperForm, if_pos ascii, same]

theorem upper_capital {name : List Char} (h : Capital name) :
    Text.Case.upper (String.ofList name) = String.ofList name := by
  have each : ∀ s : List Char, (∀ c ∈ s, c.isUpper = true) → s.flatMap Text.Case.upperForm = s := by
    intro s capitals
    induction s with
    | nil => rfl
    | cons c rest ih =>
      rw [List.flatMap_cons, upperForm_of_isUpper (capitals c List.mem_cons_self),
        ih fun d member => capitals d (List.mem_cons_of_mem c member), List.singleton_append]
  rw [Text.Case.upper, String.toList_ofList, each name h.upper]

theorem isName_capital {name : List Char} (h : Capital name) : isName name = true := by
  simp only [isName, Bool.and_eq_true, decide_eq_true_eq, List.all_eq_true, Bool.or_eq_true]
  exact ⟨h.nonempty, fun c member => .inl (.inl (isWord_of_isUpper (h.upper c member)))⟩

theorem filter_isBlank_capital {name : List Char} (h : Capital name) :
    name.filter (fun c => !isBlank c) = name := by
  apply List.filter_eq_self.mpr
  intro c member
  obtain ⟨low, high⟩ := code_of_isUpper (h.upper c member)
  have solid : c ≠ ' ' ∧ c ≠ '\t' := by
    constructor <;> rintro rfl <;> revert low <;> decide
  simp [isBlank, solid]

/-! ## Cutting at the colon -/

theorem cut_capitals {s : List Char} (h : ∀ c ∈ s, c.isUpper = true) (value : List Char) :
    cut (fun c => c == ':' || c == ';') false false (s ++ ':' :: value) = (s, some (':', value)) := by
  induction s with
  | nil => simp [cut]
  | cons c rest ih =>
    obtain ⟨low, high⟩ := code_of_isUpper (h c List.mem_cons_self)
    have plain : c ≠ ':' ∧ c ≠ ';' ∧ c ≠ '"' ∧ c ≠ '\\' := by
      refine ⟨?_, ?_, ?_, ?_⟩ <;> rintro rfl <;> revert low high <;> decide
    have later := ih fun d member => h d (List.mem_cons_of_mem c member)
    rw [List.cons_append, cut]
    simp [plain, later]

theorem cutName_capital {name : List Char} (h : Capital name) (value : List Char) :
    cutName (name ++ ':' :: value) = (name, some (':', value)) := by
  obtain ⟨c, rest, rfl⟩ := List.exists_cons_of_ne_nil h.nonempty
  obtain ⟨low, high⟩ := code_of_isUpper (h.upper c List.mem_cons_self)
  have plain : (c == '"') = false ∧ (c == '\\') = false := by
    constructor <;> rw [beq_eq_false_iff_ne] <;> rintro rfl <;> revert low high <;> decide
  have later := cut_capitals (fun d member => h.upper d (List.mem_cons_of_mem c member)) value
  rw [List.cons_append, cutName, plain.1, plain.2, later]

theorem readParameters_nil : readParameters [] = .ok [] := by
  have shielded : shield (tighten []) = [] := by
    simp [shield, tighten, tightenFrom, percentCodes, Text.replaceAll]
  rw [readParameters, shielded]
  rfl

namespace ContentLine

def named (name value : String) : ContentLine := ⟨name, [], value⟩

/-- A line of a name, a colon and a value is read as that name and what the value stands for. -/
theorem parse_named {name : List Char} (h : Capital name) (value : List Char) :
    parse (name ++ ':' :: value)
      = .ok (named (String.ofList name) (String.ofList (unescape value))) := by
  unfold parse
  simp only [cutName_capital h, filter_isBlank_capital h, isName_capital h, not_true_eq_false,
    if_false, readParameters_nil, upper_capital h]
  rfl

end ContentLine

end FeedSieve.ICalendar
