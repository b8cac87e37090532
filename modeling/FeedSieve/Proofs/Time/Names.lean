import FeedSieve.Proofs.Text.Ascii
import FeedSieve.Proofs.Text.Replace
import FeedSieve.Time.Moment
import Mathlib.Data.List.Nodup

/-!
# The names of zones

Names are made of letters, digits, slashes, underscores and signs (`Tidy`), and no two are equal up to case.
So a name stands for the same zone whether it is looked up exactly or in any case (`exists_knownZone?`).
-/
namespace FeedSieve.Time

open Text

/-! ## Distinct numbers -/

/-- Whether numbers differ from one another and from those whose bits are set. -/
def fresh (seen : Nat) : List Nat → Bool
  | [] => true
  | n :: rest => !seen.testBit n && fresh (seen ||| 1 <<< n) rest

theorem nodup_of_fresh {seen : Nat} {ns : List Nat} (h : fresh seen ns = true) :
    ns.Nodup ∧ ∀ n ∈ ns, seen.testBit n = false := by
  induction ns generalizing seen with
  | nil => exact ⟨.nil, by simp⟩
  | cons n rest ih =>
    rw [fresh, Bool.and_eq_true, Bool.not_eq_true'] at h
    obtain ⟨unseen, freshRest⟩ := h
    obtain ⟨nodup, others⟩ := ih freshRest
    have marked (m : Nat) : (seen ||| 1 <<< n).testBit m = (seen.testBit m || decide (n = m)) := by
      simp [Nat.testBit_or, Nat.one_shiftLeft, Nat.testBit_two_pow]
    refine ⟨List.nodup_cons.mpr ⟨fun again => ?_, nodup⟩, fun m member => ?_⟩
    · have bit := others n again
      simp [marked] at bit
    · rcases List.mem_cons.mp member with rfl | later
      · exact unseen
      · have bit := others m later
        rw [marked, Bool.or_eq_false_iff] at bit
        exact bit.1

namespace Zone

/-! ## Names -/

/-- A letter, a digit, a slash, an underscore or a sign. -/
def isNameChar (c : Char) : Bool := c.isAlphanum || c == '/' || c == '_' || c == '+' || c == '-'

/-- A text of the characters of names that neither starts nor ends with a slash and spells out no sign. -/
def Tidy (name : String) : Prop :=
  (bytes name).all (·.toNat < 128) = true ∧ (letters name ≠ [] ∧ (letters name).all isNameChar = true) ∧
    ((letters name).head? ≠ some '/' ∧ (letters name).getLast? ≠ some '/') ∧
    ¬ ['_', 'p'] <:+: letters name ∧ ¬ ['_', 'm'] <:+: letters name

instance (name : String) : Decidable (Tidy name) := inferInstanceAs (Decidable (_ ∧ _ ∧ _ ∧ _ ∧ _))

theorem names_tidy : ∀ name ∈ names, Tidy name := by decide +kernel

/-- A number for a text that is the same for texts that are equal up to case, and that tells the names of
the directory apart. -/
def digest (s : List Char) : Nat := s.foldl (fun n c => n * 256 + c.toLower.toNat) 0 % 28663

theorem digests_fresh : fresh 0 (names.map fun name => digest (letters name)) = true := by decide +kernel

theorem digest_congr {s t : List Char} (same : s.map Char.toLower = t.map Char.toLower) :
    digest s = digest t := by
  have folded (s : List Char) : s.foldl (fun n c => n * 256 + c.toLower.toNat) 0
      = (s.map Char.toLower).foldl (fun n c => n * 256 + c.toNat) 0 := by rw [List.foldl_map]
  rw [digest, digest, folded, folded, same]

section Names

variable {name other : String}

theorem bytes_ascii (member : name ∈ names) : ∀ b ∈ bytes name, b.toNat < 128 := fun b inBytes =>
  of_decide_eq_true (List.all_eq_true.mp (names_tidy name member).1 b inBytes)

theorem toList_name (member : name ∈ names) : name.toList = letters name :=
  toList_eq_letters (bytes_ascii member)

theorem ascii_of_mem (member : name ∈ names) {c : Char} (inName : c ∈ name.toList) : c.toNat < 128 := by
  rw [toList_name member] at inName
  exact ascii_of_mem_letters (bytes_ascii member) inName

theorem isNameChar_of_mem (member : name ∈ names) {c : Char} (inName : c ∈ name.toList) :
    isNameChar c = true := by
  rw [toList_name member] at inName
  exact List.all_eq_true.mp (names_tidy name member).2.1.2 c inName

/-- No two names are equal up to case. -/
theorem eq_of_toLower_eq (member : name ∈ names) (member' : other ∈ names)
    (same : name.toList.map Char.toLower = other.toList.map Char.toLower) : name = other := by
  rw [toList_name member, toList_name member'] at same
  exact List.inj_on_of_nodup_map (nodup_of_fresh digests_fresh).1 member member' (digest_congr same)

/-- A name is found under itself, in any case. -/
theorem canonicalName?_of_mem (member : name ∈ names) : canonicalName? name = some name := by
  obtain ⟨-, -, -, noP, noM⟩ := names_tidy name member
  have chars := toList_name member
  have plus : ¬ "_plus_".toList <:+: name.toList := by
    rw [chars]
    exact fun occurs => noP (List.IsInfix.trans ⟨[], "lus_".toList, rfl⟩ occurs)
  have minus : ¬ "_minus_".toList <:+: name.toList := by
    rw [chars]
    exact fun occurs => noM (List.IsInfix.trans ⟨[], "inus_".toList, rfl⟩ occurs)
  have low : name.toList.all (·.toNat < 128) = true :=
    List.all_eq_true.mpr fun c inName => decide_eq_true (ascii_of_mem member inName)
  rw [canonicalName?, Text.replaceAll_of_not_infix plus, Text.replaceAll_of_not_infix minus, if_pos low]
  cases found : names.find? fun n => n.toList.map Char.toLower == name.toList.map Char.toLower with
  | none => exact absurd (List.find?_eq_none.mp found name member) (by simp)
  | some other =>
    have same := List.find?_some found
    rw [beq_iff_eq] at same
    rw [eq_of_toLower_eq (List.mem_of_find?_eq_some found) member same]

theorem mem_names_of_find? {zone : Zone} (found : find? name = some zone) : name ∈ names := by
  rw [names, List.mem_append, List.mem_map, List.mem_map]
  rw [find?] at found
  cases alias_ : aliases.find? (·.1 == name) with
  | some pair =>
    have same := List.find?_some alias_
    exact .inr ⟨pair, List.mem_of_find?_eq_some alias_, eq_of_beq same⟩
  | none =>
    rw [alias_] at found
    obtain ⟨row, inRows, -⟩ := Option.map_eq_some_iff.mp found
    have same := List.find?_some inRows
    exact .inl ⟨row, List.mem_of_find?_eq_some inRows, eq_of_beq same⟩

theorem toLower_toUpper {c : Char} (ascii : c.toNat < 128) : c.toUpper.toLower = c.toLower := by
  have each : ∀ n : Fin 128, (Char.ofNat n.val).toUpper.toLower = (Char.ofNat n.val).toLower := by decide
  exact forall_ascii (P := fun c => c.toUpper.toLower = c.toLower) each ascii

/-- Only UTC itself is UTC in upper case. -/
theorem eq_utc_of_upper (member : name ∈ names) (upper : Text.Case.upper name = "UTC") : name = "UTC" := by
  have single (s : List Char) (ascii : ∀ c ∈ s, c.toNat < 128) :
      s.flatMap Text.Case.upperForm = s.map Char.toUpper := by
    induction s with
    | nil => rfl
    | cons c rest ih =>
      rw [List.flatMap_cons, List.map_cons, Text.Case.upperForm, if_pos (ascii c List.mem_cons_self),
        ih fun d later => ascii d (List.mem_cons_of_mem c later), List.singleton_append]
  have chars : name.toList.map Char.toUpper = ['U', 'T', 'C'] := by
    have same := congrArg String.toList upper
    rw [Text.Case.upper, String.toList_ofList, single _ fun c inName => ascii_of_mem member inName] at same
    exact same
  have listed : "UTC" ∈ names := by decide +kernel
  refine eq_of_toLower_eq member listed ?_
  calc name.toList.map Char.toLower
      = (name.toList.map Char.toUpper).map Char.toLower := by
        rw [List.map_map]
        exact List.map_congr_left fun c inName => (toLower_toUpper (ascii_of_mem member inName)).symm
    _ = "UTC".toList.map Char.toLower := by rw [chars]; rfl

theorem find?_utc : find? "UTC" = some (fixedAt 0) := by decide +kernel

end Names

end Zone

/-- A name that the directory has is known in any case, and stands for the same zone. -/
theorem exists_knownZone? {name : String} {zone : Zone} (found : Zone.find? name = some zone) :
    ∃ known, knownZone? name = some known ∧ known.timeline = zone.timeline := by
  have member := Zone.mem_names_of_find? found
  by_cases upper : Text.Case.upper name = "UTC"
  · rw [Zone.eq_utc_of_upper member upper, Zone.find?_utc, Option.some.injEq] at found
    exact ⟨utc, by rw [knownZone?, if_pos upper], congrArg Zone.timeline found⟩
  · refine ⟨⟨name, zone.timeline⟩, ?_, rfl⟩
    rw [knownZone?, if_neg upper, Zone.canonicalName?_of_mem member]
    change (Zone.find? name).bind _ = _
    rw [found]
    rfl

end FeedSieve.Time
