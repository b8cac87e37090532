import FeedSieve.Value

/-!
# Values that can be shown

A value has no form in a message exactly if it is, or holds at some depth, an integer that is too long to be
written (`shown?_eq_none_iff`). A text is its own text; any other value has a text if it has such a form.
-/
namespace FeedSieve.Value

/-- The value is an integer that is too long to be written, or holds one. -/
inductive HoldsLong : Value → Prop where
  | integer {n : Int} (long : Nat.pow 10 Text.Number.digitLimit ≤ n.natAbs) : HoldsLong (.integer n)
  | item {v : Value} {items : List Value} (member : v ∈ items) (long : HoldsLong v) : HoldsLong (.list items)
  | entry {name : String} {v : Value} {entries : List (String × Value)} (member : (name, v) ∈ entries)
      (long : HoldsLong v) : HoldsLong (.table entries)

theorem holdsLong_integer_iff {n : Int} :
    HoldsLong (.integer n) ↔ Nat.pow 10 Text.Number.digitLimit ≤ n.natAbs :=
  ⟨fun | .integer long => long, .integer⟩

theorem holdsLong_list_iff {items : List Value} : HoldsLong (.list items) ↔ ∃ v ∈ items, HoldsLong v :=
  ⟨fun | .item member long => ⟨_, member, long⟩, fun ⟨_, member, long⟩ => .item member long⟩

theorem holdsLong_table_iff {entries : List (String × Value)} :
    HoldsLong (.table entries) ↔ ∃ entry ∈ entries, HoldsLong entry.2 :=
  ⟨fun | .entry member long => ⟨_, member, long⟩, fun ⟨_, member, long⟩ => .entry member long⟩

mutual

theorem shown?_eq_none_iff : (v : Value) → (shown? v = none ↔ HoldsLong v)
  | .nothing => iff_of_false (by simp [shown?]) (by rintro ⟨⟩)
  | .boolean b => iff_of_false (by simp [shown?]) (by rintro ⟨⟩)
  | .integer n => by
    rw [holdsLong_integer_iff, shown?, integerText?]
    split <;> simp_all
  | .real x => iff_of_false (by simp [shown?]) (by rintro ⟨⟩)
  | .text s => iff_of_false (by simp [shown?]) (by rintro ⟨⟩)
  | .list items => by
    rw [shown?, Option.map_eq_none_iff, holdsLong_list_iff]
    exact shownItems?_eq_none_iff items
  | .table entries => by
    rw [shown?, Option.map_eq_none_iff, holdsLong_table_iff]
    exact shownEntries?_eq_none_iff entries
  | .date d => iff_of_false (by simp [shown?]) (by rintro ⟨⟩)
  | .time t => iff_of_false (by simp [shown?]) (by rintro ⟨⟩)
  | .stamp d t offset => iff_of_false (by simp [shown?]) (by rintro ⟨⟩)

theorem shownItems?_eq_none_iff : (items : List Value) →
    (shownItems? items = none ↔ ∃ v ∈ items, HoldsLong v)
  | [] => by simp [shownItems?]
  | v :: rest => by
    simp only [shownItems?, List.mem_cons, exists_eq_or_imp, ← shown?_eq_none_iff v,
      ← shownItems?_eq_none_iff rest]
    cases shown? v <;> cases shownItems? rest <;> simp

theorem shownEntries?_eq_none_iff : (entries : List (String × Value)) →
    (shownEntries? entries = none ↔ ∃ entry ∈ entries, HoldsLong entry.2)
  | [] => by simp [shownEntries?]
  | (name, v) :: rest => by
    simp only [shownEntries?, List.mem_cons, exists_eq_or_imp, ← shown?_eq_none_iff v,
      ← shownEntries?_eq_none_iff rest]
    cases shown? v <;> cases shownEntries? rest <;> simp

end

/-- A value has a text unless it holds an integer that is too long. -/
theorem display?_eq_none_iff (v : Value) : display? v = none ↔ HoldsLong v := by
  rw [← shown?_eq_none_iff]
  cases v <;> simp [display?, shown?]

end FeedSieve.Value
