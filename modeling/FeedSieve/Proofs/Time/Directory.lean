import FeedSieve.Proofs.Time.Zone
import FeedSieve.Time.Zone.Directory

/-!
# The zones of the directory

Every row describes a regular zone (`regular_of_find?`).
-/
namespace FeedSieve.Time.Zone

namespace Source

/-- The seconds that all entries wait. -/
def waits (entries : List Nat) : Nat := entries.foldr (fun e later => wait e + later) 0

/-- No entry after a second is a change in the two days with which 32-bit seconds start. Later entries
than these need no look. -/
def settled (last : Nat) : List Nat → Bool
  | [] => true
  | entry :: rest =>
    let second := last + wait entry
    decide (earliest + 172800 < second) || (decide (second < earliest) && settled second rest)

/-- Offsets are usual, every change waits more than two days, none comes when 32-bit seconds start, the
last one comes before the year 2100, and the rule continues the changes. -/
def Regular (s : Source) : Prop :=
  (Usual s.first ∧ ∀ p ∈ s.periods, Usual p.offset) ∧
    (s.entries.all (172800 < wait ·) = true ∧ settled origin s.entries = true ∧
      origin + waits s.entries < 66238041600) ∧
    s.zone.Continued

instance (s : Source) : Decidable s.Regular := inferInstanceAs (Decidable (_ ∧ _ ∧ _))

variable {periods : List Period} {last : Nat} {entries : List Nat}

theorem period_of_mem {c : Change} (member : c ∈ changesOf periods last entries) :
    c.period = default ∨ c.period ∈ periods := by
  induction entries generalizing last with
  | nil => cases member
  | cons entry rest ih =>
    rcases List.mem_cons.mp member with rfl | member
    · dsimp only
      rw [List.getD_eq_getElem?_getD]
      cases found : periods[entry % 16]? with
      | none => exact .inl rfl
      | some p => exact .inr (List.mem_of_getElem? found)
    · exact ih member

/-- The changes after a second lie behind it, by no more than the waits. -/
theorem second_of_mem {c : Change} (spaced : ∀ e ∈ entries, 172800 < wait e)
    (member : c ∈ changesOf periods last entries) :
    (last : Int) + 172800 < c.second ∧ c.second ≤ last + waits entries := by
  induction entries generalizing last with
  | nil => cases member
  | cons entry rest ih =>
    have here := spaced entry List.mem_cons_self
    have all : waits (entry :: rest) = wait entry + waits rest := rfl
    rw [all]
    rcases List.mem_cons.mp member with rfl | member
    · dsimp only
      omega
    · have later := ih (fun e inRest => spaced e (List.mem_cons_of_mem entry inRest)) member
      omega

theorem pairwise_changesOf (spaced : ∀ e ∈ entries, 172800 < wait e) :
    (changesOf periods last entries).Pairwise fun c d => c.second + 172800 < d.second := by
  induction entries generalizing last with
  | nil => exact .nil
  | cons entry rest ih =>
    have others : ∀ e ∈ rest, 172800 < wait e := fun e inRest => spaced e (List.mem_cons_of_mem entry inRest)
    exact .cons (fun c member => (second_of_mem others member).1) (ih others)

theorem settled_of_mem (spaced : ∀ e ∈ entries, 172800 < wait e) (clear : settled last entries = true)
    {c : Change} (member : c ∈ changesOf periods last entries) (since : earliest ≤ c.second) :
    earliest + 172800 < c.second := by
  induction entries generalizing last with
  | nil => cases member
  | cons entry rest ih =>
    have others : ∀ e ∈ rest, 172800 < wait e := fun e inRest => spaced e (List.mem_cons_of_mem entry inRest)
    rw [settled, Bool.or_eq_true, Bool.and_eq_true, decide_eq_true_eq, decide_eq_true_eq] at clear
    rcases List.mem_cons.mp member with rfl | later
    · dsimp only at since ⊢
      omega
    · rcases clear with passed | ⟨-, clear⟩
      · have := (second_of_mem others later).1
        omega
      · exact ih others clear later

theorem Regular.zone {s : Source} (regular : s.Regular) : s.zone.Regular := by
  obtain ⟨⟨first, periods⟩, ⟨all, clear, until_⟩, continued⟩ := regular
  have spaced (e : Nat) (member : e ∈ s.entries) : 172800 < wait e :=
    of_decide_eq_true (List.all_eq_true.mp all e member)
  refine ⟨first, fun c member => ?_, pairwise_changesOf spaced, fun c member => ?_,
    fun c member => settled_of_mem spaced clear member, continued⟩
  · rcases period_of_mem member with none_ | known
    · rw [none_]
      decide
    · exact periods c.period known
  · have low : yearStart 1800 = origin := rfl
    have high : yearStart 2100 = 66238041600 := rfl
    have bounds := second_of_mem spaced member
    omega

end Source

theorem rows_regular : ∀ s ∈ rows, s.Regular := by decide +kernel

theorem regular_of_find? {name : String} {z : Zone} (found : find? name = some z) : z.Regular := by
  obtain ⟨s, row, rfl⟩ := Option.map_eq_some_iff.mp found
  exact (rows_regular s (List.mem_of_find?_eq_some row)).zone

end FeedSieve.Time.Zone
