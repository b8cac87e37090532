import Mathlib.Data.List.Forall2
import FeedSieve.Proofs.Text.Order
import FeedSieve.Proofs.Time.Timestamp
import FeedSieve.Proofs.Time.Year

/-!
# Timestamps in the order of time

Dates and times of day are ordered number by number, the year first (`Instant.seconds_lt_iff`). A text that
writes each number in its full width is ordered in the same way (`Instant.iso_lt_iff`). A timestamp is this
text without the zeros in front, so that its order is that of time only among years of equally many digits
(`Instant.timestamp_lt_iff`).
-/
namespace FeedSieve.Time

/-! ## Numbers of dates -/

namespace Date

variable {d d' : Date}

theorem number_lt_of_year (valid : d.Valid) (valid' : d'.Valid) (earlier : d.year < d'.year) :
    d.number < d'.number := by
  have here := d.number_in_year valid
  have there := d'.number_in_year valid'
  have years := yearStart_mono (by omega : 1 ≤ d.year + 1) earlier
  unfold yearStart at years
  omega

theorem number_lt_of_month (valid : d.Valid) (sameYear : d.year = d'.year) (earlier : d.month < d'.month) :
    d.number < d'.number := by
  obtain ⟨-, -, january, -, day, within⟩ := valid
  have next := daysBeforeMonth_succ d.year d.month january
  have months := daysBeforeMonth_mono d.year (by omega : 1 ≤ d.month + 1) earlier
  rw [number, number, ← sameYear]
  omega

/-- Dates are ordered by year, month and day. -/
theorem number_lt_iff (valid : d.Valid) (valid' : d'.Valid) : d.number < d'.number ↔
    d.year < d'.year ∨ d.year = d'.year ∧ (d.month < d'.month ∨ d.month = d'.month ∧ d.day < d'.day) := by
  have first := valid.2.2.2.2.1
  have first' := valid'.2.2.2.2.1
  rcases Nat.lt_trichotomy d.year d'.year with earlier | sameYear | later
  · have less := number_lt_of_year valid valid' earlier
    omega
  · rcases Nat.lt_trichotomy d.month d'.month with earlier | sameMonth | later
    · have less := number_lt_of_month valid sameYear earlier
      omega
    · have numbers : d.number + d'.day = d'.number + d.day := by
        rw [number, number, sameYear, sameMonth]
        omega
      omega
    · have less := number_lt_of_month valid' sameYear.symm later
      omega
  · have less := number_lt_of_year valid' valid later
    omega

end Date

/-- The fields of one count come before those of another, by the first of them that differs. -/
def Fields.Before (f f' : Fields) : Prop :=
  f.date.year < f'.date.year ∨ f.date.year = f'.date.year ∧
  (f.date.month < f'.date.month ∨ f.date.month = f'.date.month ∧
  (f.date.day < f'.date.day ∨ f.date.day = f'.date.day ∧
  (f.hour < f'.hour ∨ f.hour = f'.hour ∧
  (f.minute < f'.minute ∨ f.minute = f'.minute ∧ f.second < f'.second))))

namespace Instant

variable (t t' : Instant)

/-- Instants are ordered, to the second, by the first field that differs. -/
theorem seconds_lt_iff : t.seconds < t'.seconds ↔ t.ticks.fields.Before t'.ticks.fields := by
  obtain ⟨date, hour, minute, second, -⟩ := t.ticks.valid_fields
  obtain ⟨date', hour', minute', second', -⟩ := t'.ticks.valid_fields
  have before := Date.number_lt_iff date date'
  have after := Date.number_lt_iff date' date
  have time := t.ticks.seconds_eq_of_fields
  have time' := t'.ticks.seconds_eq_of_fields
  rw [seconds, seconds, time, time', Fields.Before]
  omega

/-- Whole seconds are ordered as their counts are. -/
theorem seconds_lt_iff_of_isWhole {t t' : Instant} (whole : t.ticks.IsWhole) (whole' : t'.ticks.IsWhole) :
    t.seconds < t'.seconds ↔ t.ticks.val < t'.ticks.val := by
  unfold Ticks.IsWhole Time.second at whole whole'
  rw [seconds, seconds, Time.second]
  omega

/-! ## The texts -/

def year : Nat := t.ticks.fields.date.year

theorem year_bounds : 1 ≤ t.year ∧ t.year ≤ 9999 :=
  ⟨t.ticks.valid_fields.1.1, t.ticks.valid_fields.1.2.1⟩

/-- The text of an instant with each number in its full width: `YYYY-MM-DDTHH:MM:SSZ`. -/
def iso : String := t.ticks.fields.date.iso ++ "T" ++ t.ticks.fields.clock ++ "Z"

/-- What follows the year and its mark in both texts. -/
def withinYear : List Char :=
  (padded 2 t.ticks.fields.date.month).toList ++ '-' :: ((padded 2 t.ticks.fields.date.day).toList
    ++ 'T' :: ((padded 2 t.ticks.fields.hour).toList ++ ':' :: ((padded 2 t.ticks.fields.minute).toList
    ++ ':' :: ((padded 2 t.ticks.fields.second).toList ++ 'Z' :: []))))

theorem timestamp_eq_withinYear : t.timestamp.toList = (toString t.year).toList ++ '-' :: t.withinYear := by
  rw [toList_timestamp, padded_zero]
  rfl

theorem iso_eq_withinYear : t.iso.toList = (padded 4 t.year).toList ++ '-' :: t.withinYear := by
  simp [iso, Date.iso, Fields.clock, year, withinYear]

/-- A timestamp is the text of full width without the zeros in front. -/
theorem iso_eq_timestamp : t.iso.toList
    = List.replicate (4 - (toString t.year).length) '0' ++ t.timestamp.toList := by
  rw [iso_eq_withinYear, timestamp_eq_withinYear, padded, String.toList_append, String.toList_ofList,
    List.append_assoc]

end Instant

/-! ## The form of the texts -/

/-- The characters of a text follow a template, in which a `0` stands for any digit. -/
def Follows (template text : List Char) : Prop :=
  List.Forall₂ (fun mark c => if mark = '0' then c.isDigit = true else c = mark) template text

theorem follows_plain {s : List Char} (plain : Text.Number.Plain s) :
    Follows (List.replicate s.length '0') s := by
  induction s with
  | nil => exact .nil
  | cons c rest ih =>
    exact .cons (plain c List.mem_cons_self) (ih fun d member => plain d (List.mem_cons_of_mem c member))

theorem Follows.append {template template' text text' : List Char} (h : Follows template text)
    (h' : Follows template' text') : Follows (template ++ template') (text ++ text') :=
  List.rel_append h h'

theorem Follows.mark {template text : List Char} (h : Follows template text) {mark : Char}
    (other : mark ≠ '0') : Follows (mark :: template) (mark :: text) := .cons (by rw [if_neg other]) h

theorem follows_padded {width n : Nat} (fits : (Nat.toDigits 10 n).length ≤ width) :
    Follows (List.replicate width '0') (padded width n).toList := by
  have digits := follows_plain (plain_padded width n)
  rw [length_padded fits] at digits
  exact digits

theorem follows_pair {n : Nat} (pair : n < 100) {mark : Char} (other : mark ≠ '0') {template text : List Char}
    (h : Follows template text) :
    Follows ('0' :: '0' :: mark :: template) ((padded 2 n).toList ++ mark :: text) :=
  (follows_padded (length_pair pair)).append (h.mark other)

namespace Instant

variable (t : Instant)

theorem length_year : (Nat.toDigits 10 t.year).length ≤ 4 :=
  (Nat.length_toDigits_le_iff (by decide) (by decide)).mpr (Nat.lt_succ_of_le t.year_bounds.2)

theorem follows_withinYear : Follows "00-00T00:00:00Z".toList t.withinYear := by
  obtain ⟨⟨-, -, -, month, -, day⟩, hour, minute, second, -⟩ := t.ticks.valid_fields
  have days := (daysInMonth_bounds t.ticks.fields.date.year t.ticks.fields.date.month).2
  have last := follows_pair (by omega : t.ticks.fields.second < 100) (by decide : 'Z' ≠ '0') .nil
  have minutes := follows_pair (by omega : t.ticks.fields.minute < 100) (by decide : ':' ≠ '0') last
  have hours := follows_pair (by omega : t.ticks.fields.hour < 100) (by decide : ':' ≠ '0') minutes
  have time := follows_pair (by omega : t.ticks.fields.date.day < 100) (by decide : 'T' ≠ '0') hours
  exact follows_pair (by omega : t.ticks.fields.date.month < 100) (by decide : '-' ≠ '0') time

/-- The text of full width has twenty characters, digits but for the marks. -/
theorem follows_iso : Follows "0000-00-00T00:00:00Z".toList t.iso.toList := by
  rw [iso_eq_withinYear]
  exact (follows_padded t.length_year).append (t.follows_withinYear.mark (by decide))

theorem length_iso : t.iso.length = 20 := by
  rw [← String.length_toList, ← t.follows_iso.length_eq]
  rfl

theorem length_timestamp : t.timestamp.length = 16 + (toString t.year).length := by
  have within : t.withinYear.length = 15 := t.follows_withinYear.length_eq.symm
  rw [← String.length_toList, timestamp_eq_withinYear, List.length_append, List.length_cons, within,
    String.length_toList]
  omega

/-- The numeral of a year has four digits from the year 1000 on. -/
theorem four_digits_iff : (toString t.year).length = 4 ↔ 1000 ≤ t.year := by
  have digits : (toString t.year).length = (Nat.toDigits 10 t.year).length := by
    rw [← String.length_toList, Nat.toString_eq_ofList_toDigits, String.toList_ofList]
  have three := Nat.length_toDigits_le_iff (b := 10) (n := t.year) (k := 3) (by decide) (by decide)
  have four := t.length_year
  rw [digits]
  omega

/-- A timestamp is the text of full width exactly from the year 1000 on, and otherwise it is shorter. -/
theorem timestamp_eq_iso_iff : t.timestamp = t.iso ↔ 1000 ≤ t.year := by
  rw [← four_digits_iff]
  constructor
  · intro same
    have length := t.length_timestamp
    rw [same, length_iso] at length
    omega
  · intro four
    have padding := t.iso_eq_timestamp
    rw [four, Nat.sub_self, List.replicate_zero, List.nil_append] at padding
    exact String.toList_injective padding.symm

end Instant

/-! ## The order of the texts -/

theorem toList_padded_inj {width n n' : Nat} :
    (padded width n).toList = (padded width n').toList ↔ n = n' := by
  constructor
  · exact eq_of_toList_padded
  · rintro rfl
    rfl

/-- Numbers of full width are compared as numbers, and before what follows them. -/
theorem padded_append_lt_iff {width n n' : Nat} (fits : (Nat.toDigits 10 n).length ≤ width)
    (fits' : (Nat.toDigits 10 n').length ≤ width) (rest rest' : List Char) :
    (padded width n).toList ++ rest < (padded width n').toList ++ rest' ↔ n < n' ∨ n = n' ∧ rest < rest' := by
  have length : (padded width n).toList.length = (padded width n').toList.length := by
    rw [length_padded fits, length_padded fits']
  rw [Text.Number.append_lt_append_iff length,
    Text.Number.lt_iff_ofDigitChars (plain_padded width n) (plain_padded width n') length,
    ofDigitChars_padded, ofDigitChars_padded, toList_padded_inj]

/-- Pairs of digits are compared as numbers, and before what follows their mark. -/
theorem pair_append_lt_iff {n n' : Nat} (pair : n < 100) (pair' : n' < 100) (mark : Char)
    (rest rest' : List Char) : (padded 2 n).toList ++ mark :: rest < (padded 2 n').toList ++ mark :: rest'
      ↔ n < n' ∨ n = n' ∧ rest < rest' := by
  rw [padded_append_lt_iff (length_pair pair) (length_pair pair'), List.cons_lt_cons_self]

/-- Numerals of one length are compared as numbers. -/
theorem toString_lt_iff {n n' : Nat} (length : (toString n).length = (toString n').length) :
    toString n < toString n' ↔ n < n' := by
  rw [← padded_zero, ← padded_zero, ← String.length_toList, ← String.length_toList] at length
  rw [← padded_zero, ← padded_zero, String.lt_iff,
    Text.Number.lt_iff_ofDigitChars (plain_padded 0 n) (plain_padded 0 n') length, ofDigitChars_padded,
    ofDigitChars_padded]

namespace Instant

variable (t t' : Instant)

/-- Within a year the texts are ordered as time is. -/
theorem withinYear_lt_iff (sameYear : t.year = t'.year) :
    t.withinYear < t'.withinYear ↔ t.seconds < t'.seconds := by
  obtain ⟨⟨-, -, -, month, -, day⟩, hour, minute, second, -⟩ := t.ticks.valid_fields
  obtain ⟨⟨-, -, -, month', -, day'⟩, hour', minute', second', -⟩ := t'.ticks.valid_fields
  have days := (daysInMonth_bounds t.ticks.fields.date.year t.ticks.fields.date.month).2
  have days' := (daysInMonth_bounds t'.ticks.fields.date.year t'.ticks.fields.date.month).2
  rw [seconds_lt_iff, Fields.Before, withinYear, withinYear, pair_append_lt_iff (by omega) (by omega),
    pair_append_lt_iff (by omega) (by omega), pair_append_lt_iff (by omega) (by omega),
    pair_append_lt_iff (by omega) (by omega), pair_append_lt_iff (by omega) (by omega)]
  simp only [year] at sameYear
  simp [sameYear]

/-- The year alone tells the order of instants in different years. -/
theorem year_first : t.year < t'.year ∨ t.year = t'.year ∧ t.seconds < t'.seconds
    ↔ t.seconds < t'.seconds := by
  have before := seconds_lt_iff t t'
  rw [Fields.Before, ← year, ← year] at before
  omega

/-- Timestamps are ordered by the numerals of their years, and within a year by time. -/
theorem timestamp_lt_iff : t.timestamp < t'.timestamp ↔
    toString t.year < toString t'.year ∨ t.year = t'.year ∧ t.seconds < t'.seconds := by
  have low : ∀ c : Char, c.isDigit = true → '-' < c := by
    intro c digit
    have range := Text.Number.toNat_of_isDigit digit
    exact UInt32.lt_iff_toNat_lt.mpr (Nat.lt_of_lt_of_le (by decide : 45 < 48) range.1)
  rw [String.lt_iff, timestamp_eq_withinYear, timestamp_eq_withinYear, ← padded_zero, ← padded_zero,
    Text.Number.append_mark_lt_iff low (plain_padded 0 t.year) (plain_padded 0 t'.year), toList_padded_inj,
    ← String.lt_iff]
  exact or_congr_right (and_congr_right (withinYear_lt_iff t t'))

/-- In years of equally many digits timestamps are ordered as time is. -/
theorem timestamp_lt_iff_of_length (length : (toString t.year).length = (toString t'.year).length) :
    t.timestamp < t'.timestamp ↔ t.seconds < t'.seconds := by
  rw [timestamp_lt_iff, toString_lt_iff length, year_first]

/-- Timestamps are ordered as time is exactly if the numerals of their years are ordered as the years are. -/
theorem timestamp_ordered_iff : (t.timestamp < t'.timestamp ↔ t.seconds < t'.seconds)
    ↔ (toString t.year < toString t'.year ↔ t.year < t'.year) := by
  rw [timestamp_lt_iff, ← year_first]
  by_cases sameYear : t.year = t'.year
  · simp [sameYear]
  · simp [sameYear]

/-- The texts of full width are ordered as time is. -/
theorem iso_lt_iff : t.iso < t'.iso ↔ t.seconds < t'.seconds := by
  rw [String.lt_iff, iso_eq_withinYear, iso_eq_withinYear,
    padded_append_lt_iff t.length_year t'.length_year, List.cons_lt_cons_self, ← year_first]
  exact or_congr_right (and_congr_right (withinYear_lt_iff t t'))

end Instant

end FeedSieve.Time
