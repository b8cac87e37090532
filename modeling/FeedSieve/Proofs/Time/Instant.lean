import FeedSieve.Proofs.Text.Number
import FeedSieve.Proofs.Time.Calendar

/-!
# Fields and whole seconds

The fields of a count name an existing reading, which is the count again (`wall?_fields`). A reading and an
instant are an offset apart (`Wall.toInstant?_eq_some_iff`), and conversions by whole seconds keep whole
seconds.
-/
namespace FeedSieve.Time

theorem Ticks.fields_eq (t : Ticks) :
    t.fields = ⟨Date.ofNumber (t.val / day), t.val % day / Time.second / 3600,
      t.val % day / Time.second / 60 % 60, t.val % day / Time.second % 60,
      t.val % day % Time.second⟩ := rfl

/-- The fields of a count name an existing date and time of day. -/
theorem Ticks.valid_fields (t : Ticks) : t.fields.Valid := by
  have bound : t.val < dayCount * day := t.isLt
  rw [day, Time.second] at bound
  have inCalendar : t.val / day < dayCount := by
    rw [day, Time.second]
    omega
  refine ⟨Date.valid_ofNumber inCalendar, ?_⟩
  rw [Ticks.fields_eq, day, Time.second]
  dsimp only
  omega

theorem Ticks.count_fields (t : Ticks) : t.fields.count = t.val := by
  rw [Ticks.fields_eq, Fields.count]
  dsimp only
  rw [Date.number_ofNumber, day, Time.second]
  omega

/-- The count without its fraction of a second. -/
def Ticks.whole (t : Ticks) : Ticks := (Instant.mk t).wholeSecond.ticks

theorem Ticks.val_whole (t : Ticks) : t.whole.val = t.val - t.val % Time.second := rfl

/-- The fields of a count, to the second, name the reading of the count without its fraction. -/
theorem wall?_fields (t : Ticks) :
    Fields.wall? ⟨t.fields.date, t.fields.hour, t.fields.minute, t.fields.second, 0⟩
      = some ⟨t.whole⟩ := by
  obtain ⟨date, hour, minute, second, -⟩ := t.valid_fields
  have valid : Fields.Valid ⟨t.fields.date, t.fields.hour, t.fields.minute, t.fields.second, 0⟩ :=
    ⟨date, hour, minute, second, Nat.zero_lt_succ _⟩
  have count : Fields.count ⟨t.fields.date, t.fields.hour, t.fields.minute, t.fields.second, 0⟩
      = t.whole.val := by
    have split : t.fields.microsecond = t.val % Time.second := by
      rw [Ticks.fields_eq, day, Time.second]
      dsimp only
      omega
    have total := t.count_fields
    rw [Fields.count, split] at total
    rw [Fields.count, Ticks.val_whole]
    dsimp only
    omega
  have bound := t.whole.isLt
  rw [Fields.wall?, if_pos valid]
  simp only [count]
  rw [dif_pos bound]

/-! ## Moving by microseconds -/

theorem span_eq : span = 315537897600000000 := rfl

theorem day_eq : (day : Int) = 86400 * 1000000 := rfl

theorem Ticks.shift?_eq_some_iff {t moved : Ticks} {delta : Int} :
    t.shift? delta = some moved ↔ (moved.val : Int) = t.val + delta := by
  have bound := moved.isLt
  unfold Ticks.shift?
  dsimp only
  split
  · rename_i inside
    rw [Option.some.injEq, Fin.ext_iff]
    dsimp only
    omega
  · rename_i outside
    simp only [reduceCtorEq, false_iff]
    omega

theorem Ticks.shift?_eq_none {t : Ticks} {delta : Int}
    (outside : ¬ (0 ≤ t.val + delta ∧ t.val + delta < 315537897600000000)) : t.shift? delta = none := by
  rw [Ticks.shift?]
  exact dif_neg outside

theorem Ticks.exists_shift? (t : Ticks) (delta : Int) (low : 0 ≤ t.val + delta)
    (high : t.val + delta < 315537897600000000) : ∃ moved, t.shift? delta = some moved := by
  rw [Ticks.shift?]
  exact ⟨_, dif_pos ⟨low, high⟩⟩

/-! ## Readings at an offset -/

/-- The microsecond of UTC at which a clock that is ahead by some seconds shows the reading. It may lie outside
the years 1 to 9999. -/
def Wall.utcCount (w : Wall) (offset : Int) : Int := w.ticks.val - offset * Time.second

section Offsets

variable {w : Wall} {t : Instant} {offset : Int}

theorem Wall.toInstant?_eq_some_iff : w.toInstant? offset = some t ↔ (t.ticks.val : Int) = w.utcCount offset := by
  obtain ⟨ticks⟩ := t
  simp only [toInstant?, utcCount, Option.map_eq_some_iff, Instant.mk.injEq, exists_eq_right,
    Ticks.shift?_eq_some_iff]
  omega

theorem Wall.exists_toInstant? (low : 0 ≤ w.utcCount offset) (high : w.utcCount offset < span) :
    ∃ t, w.toInstant? offset = some t :=
  ⟨⟨⟨(w.utcCount offset).toNat, by omega⟩⟩, toInstant?_eq_some_iff.mpr (Int.toNat_of_nonneg low)⟩

theorem Wall.toInstant?_eq_none_iff :
    w.toInstant? offset = none ↔ ¬ (0 ≤ w.utcCount offset ∧ w.utcCount offset < span) := by
  constructor
  · rintro unreached ⟨low, high⟩
    obtain ⟨t, reached⟩ := exists_toInstant? low high
    rw [unreached] at reached
    cases reached
  · intro outside
    apply Option.eq_none_iff_forall_ne_some.mpr
    intro t reached
    have same := toInstant?_eq_some_iff.mp reached
    have bound := t.ticks.isLt
    omega

/-- An instant and a reading belong to one another by an offset, whichever of them is given. -/
theorem Instant.toWall?_eq_some_iff : t.toWall? offset = some w ↔ w.toInstant? offset = some t := by
  obtain ⟨shown⟩ := w
  rw [Wall.toInstant?_eq_some_iff, Wall.utcCount]
  simp only [toWall?, Option.map_eq_some_iff, Wall.mk.injEq, exists_eq_right, Ticks.shift?_eq_some_iff]
  omega

/-- Two offsets that give a reading the same instant are equal. -/
theorem Wall.offset_unique (reached : w.toInstant? offset = some t) (other : Int) :
    w.toInstant? other = some t ↔ other = offset := by
  rw [toInstant?_eq_some_iff, utcCount, Time.second] at reached ⊢
  omega

/-- A reading of the clock of UTC is the instant it shows. -/
theorem Wall.toInstant?_zero (w : Wall) : w.toInstant? 0 = some ⟨w.ticks⟩ := by
  rw [toInstant?_eq_some_iff, utcCount, Int.zero_mul, Int.sub_zero]

theorem Wall.utcCount_div (w : Wall) (offset : Int) :
    w.utcCount offset / Time.second = w.seconds - offset := by
  rw [utcCount, seconds, Time.second]
  omega

theorem Wall.seconds_of_toInstant? (reached : w.toInstant? offset = some t) :
    (t.seconds : Int) = w.seconds - offset := by
  rw [← utcCount_div, ← toInstant?_eq_some_iff.mp reached, Instant.seconds]
  exact Int.natCast_ediv _ _

end Offsets

/-! ## Whole seconds -/

/-- The count has no fraction of a second. -/
def Ticks.IsWhole (t : Ticks) : Prop := t.val % Time.second = 0

instance (t : Ticks) : Decidable t.IsWhole := by unfold Ticks.IsWhole; infer_instance

theorem Ticks.whole_of_isWhole {t : Ticks} (h : t.IsWhole) : t.whole = t := by
  apply Fin.ext
  rw [Ticks.val_whole, h]
  rfl

theorem Ticks.isWhole_shift {t moved : Ticks} {seconds : Int} (h : t.IsWhole)
    (shift : t.shift? (seconds * Time.second) = some moved) : moved.IsWhole := by
  rw [shift?_eq_some_iff] at shift
  unfold IsWhole Time.second at *
  omega

theorem isWhole_of_wall? {date : Date} {hour minute second : Nat} {w : Wall}
    (h : Fields.wall? ⟨date, hour, minute, second, 0⟩ = some w) : w.ticks.IsWhole := by
  unfold Fields.wall? at h
  split at h
  · split at h
    · cases h
      simp only [Ticks.IsWhole, Fields.count, day, Time.second]
      omega
    · cases h
  · cases h

theorem isWhole_toInstant? {w : Wall} {offset : Int} {t : Instant} (whole : w.ticks.IsWhole)
    (h : w.toInstant? offset = some t) : t.ticks.IsWhole := by
  unfold Wall.toInstant? at h
  obtain ⟨moved, shift, rfl⟩ := Option.map_eq_some_iff.mp h
  rw [← Int.neg_mul] at shift
  exact Ticks.isWhole_shift whole shift

theorem isWhole_add? {start t : Instant} {seconds : Int} (whole : start.ticks.IsWhole)
    (h : start.add? seconds = some t) : t.ticks.IsWhole := by
  unfold Instant.add? at h
  obtain ⟨moved, shift, rfl⟩ := Option.map_eq_some_iff.mp h
  exact Ticks.isWhole_shift whole shift

/-! ## Numbers of fixed width -/

theorem toList_padded (width n : Nat) :
    (padded width n).toList
      = List.replicate (width - (Nat.toDigits 10 n).length) '0' ++ Nat.toDigits 10 n := by
  have length : (toString n).length = (Nat.toDigits 10 n).length := by
    rw [← String.length_toList, Nat.toString_eq_ofList_toDigits, String.toList_ofList]
  rw [padded, String.toList_append, String.toList_ofList, length, Nat.toString_eq_ofList_toDigits,
    String.toList_ofList]

theorem plain_padded (width n : Nat) : Text.Number.Plain (padded width n).toList := by
  intro c member
  rw [toList_padded, List.mem_append] at member
  rcases member with zero | digit
  · rw [List.eq_of_mem_replicate zero]
    decide
  · exact Nat.isDigit_of_mem_toDigits (by decide) (by decide) digit

theorem length_padded {width n : Nat} (fits : (Nat.toDigits 10 n).length ≤ width) :
    (padded width n).toList.length = width := by
  rw [toList_padded, List.length_append, List.length_replicate]
  omega

theorem ofDigitChars_padded (width n : Nat) :
    Nat.ofDigitChars 10 (padded width n).toList 0 = n := by
  rw [toList_padded, Nat.ofDigitChars_append]
  simp

/-- Numbers that are written alike are equal, whatever their widths. -/
theorem eq_of_toList_padded {width width' n n' : Nat}
    (same : (padded width n).toList = (padded width' n').toList) : n = n' := by
  rw [← ofDigitChars_padded width n, same, ofDigitChars_padded]

theorem length_pair {n : Nat} (pair : n < 100) : (Nat.toDigits 10 n).length ≤ 2 :=
  (Nat.length_toDigits_le_iff (by decide) (by decide)).mpr pair

end FeedSieve.Time
