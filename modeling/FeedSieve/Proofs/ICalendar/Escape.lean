import FeedSieve.ICalendar.Escape
import FeedSieve.Proofs.Text.Replace

/-!
# Escapes read back

A text that is escaped and read again has its line breaks and its capital escapes turned into line feeds,
and is otherwise the same (`unescape_escape`). `settled_eq_self_iff` tells which texts come back
unchanged.
-/
namespace FeedSieve.ICalendar

/-- A text whose line breaks, and carriage returns elsewhere, are line feeds. -/
def plainBreaks : List Char → List Char
  | [] => []
  | '\r' :: '\n' :: rest => '\n' :: plainBreaks rest
  | c :: rest => (if c = '\r' then '\n' else c) :: plainBreaks rest

/-- A text as it is read after it was written. -/
def settled (s : List Char) : List Char := plainBreaks (Text.replaceAll ['\\', 'N'] ['\n'] s)

/-! ## Reading -/

theorem unescape_cons {c : Char} (h : c ≠ '\\') (rest : List Char) :
    unescape (c :: rest) = c :: unescape rest := by
  cases rest with
  | nil => rfl
  | cons d rest => rw [unescape, if_neg h]

theorem unescape_escaped {c e : Char} (h : escapedChar? c = some e) (rest : List Char) :
    unescape ('\\' :: c :: rest) = e :: unescape rest := by
  rw [unescape, if_pos rfl, h]

/-- A value without a backslash stands for itself. -/
theorem unescape_of_not_mem {s : List Char} (h : '\\' ∉ s) : unescape s = s := by
  induction s with
  | nil => rfl
  | cons c rest ih =>
    rw [List.mem_cons, not_or] at h
    rw [unescape_cons (Ne.symm h.1), ih h.2]

/-- Every text is what some value on one line stands for. -/
theorem exists_unescape (s : List Char) : ∃ value, '\n' ∉ value ∧ unescape value = s := by
  induction s with
  | nil => exact ⟨[], by simp, rfl⟩
  | cons c rest ih =>
    obtain ⟨value, unbroken, read⟩ := ih
    by_cases backslash : c = '\\'
    · exact ⟨'\\' :: '\\' :: value, by simpa using unbroken,
        by rw [unescape_escaped rfl, read, backslash]⟩
    · by_cases feed : c = '\n'
      · exact ⟨'\\' :: 'n' :: value, by simpa using unbroken,
          by rw [unescape_escaped rfl, read, feed]⟩
      · exact ⟨c :: value, by simpa using ⟨Ne.symm feed, unbroken⟩,
          by rw [unescape_cons backslash, read]⟩

theorem unescape_escapeChars (s : List Char) : unescape (escapeChars s) = plainBreaks s := by
  fun_induction plainBreaks s with
  | case1 => rfl
  | case2 rest ih => rw [escapeChars, unescape_escaped rfl, ih]
  | case3 c rest notBreak ih =>
    rw [escapeChars.eq_3 _ _ notBreak]
    by_cases shielded : c = '\\' ∨ c = ';' ∨ c = ','
    · rw [if_pos shielded, List.cons_append, List.cons_append, List.nil_append]
      rcases shielded with rfl | rfl | rfl <;> rw [unescape_escaped rfl, ih, if_neg (by decide)]
    · rw [if_neg shielded]
      by_cases breaks : c = '\n' ∨ c = '\r'
      · rw [if_pos breaks, List.cons_append, List.cons_append, List.nil_append,
          unescape_escaped rfl, ih]
        rcases breaks with rfl | rfl <;> rfl
      · rw [not_or] at shielded breaks
        rw [if_neg (not_or.mpr breaks), List.singleton_append, unescape_cons shielded.1, ih,
          if_neg breaks.2]

/-- What is read of a text that was written. -/
theorem unescape_escape (s : List Char) : unescape (escape s) = settled s :=
  unescape_escapeChars _

/-! ## Line breaks -/

theorem not_break_of_mem_escapeChars {c : Char} {s : List Char} (h : c ∈ escapeChars s) :
    c ≠ '\r' ∧ c ≠ '\n' := by
  fun_induction escapeChars s with
  | case1 => cases h
  | case2 rest ih =>
    simp only [List.mem_cons] at h
    rcases h with rfl | rfl | later
    · decide
    · decide
    · exact ih later
  | case3 d rest notBreak ih =>
    rw [List.mem_append] at h
    rcases h with here | later
    · split at here
      · rename_i shielded
        rcases shielded with rfl | rfl | rfl <;> simp only [List.mem_cons] at here <;>
          rcases here with rfl | rfl | none <;> first | decide | cases none
      · split at here
        · simp only [List.mem_cons] at here
          rcases here with rfl | rfl | none
          · decide
          · decide
          · cases none
        · rename_i other
          rw [not_or] at other
          rw [List.mem_singleton] at here
          subst here
          exact ⟨other.2, other.1⟩
    · exact ih later

/-! ## Texts that come back unchanged -/

theorem not_mem_plainBreaks (s : List Char) : '\r' ∉ plainBreaks s := by
  fun_induction plainBreaks s with
  | case1 => simp
  | case2 rest ih => simpa using ih
  | case3 c rest notBreak ih =>
    rw [List.mem_cons, not_or]
    refine ⟨?_, ih⟩
    split
    · decide
    · rename_i other
      exact Ne.symm other

theorem plainBreaks_of_not_mem {s : List Char} (h : '\r' ∉ s) : plainBreaks s = s := by
  fun_induction plainBreaks s with
  | case1 => rfl
  | case2 rest ih => exact absurd List.mem_cons_self h
  | case3 c rest notBreak ih =>
    rw [List.mem_cons, not_or] at h
    rw [ih h.2, if_neg (Ne.symm h.1)]

theorem length_plainBreaks_le (s : List Char) : (plainBreaks s).length ≤ s.length := by
  fun_induction plainBreaks s with
  | case1 => exact Nat.le_refl _
  | case2 rest ih =>
    simp only [List.length_cons]
    omega
  | case3 c rest notBreak ih =>
    simp only [List.length_cons]
    omega

/-- A text comes back unchanged exactly if it has no carriage return and no backslash before a capital
`N`. -/
theorem settled_eq_self_iff (s : List Char) :
    settled s = s ↔ '\r' ∉ s ∧ ¬ ['\\', 'N'] <:+: s := by
  constructor
  · intro same
    refine ⟨?_, ?_⟩
    · rw [← same]
      exact not_mem_plainBreaks _
    · intro occurs
      -- A replacement that takes place makes the text shorter, and no line break makes it longer again.
      have below := Text.length_replaceAll_lt (by decide : ['\n'].length < ['\\', 'N'].length) occurs
      have atMost := length_plainBreaks_le (Text.replaceAll ['\\', 'N'] ['\n'] s)
      have total := congrArg List.length same
      rw [settled] at total
      omega
  · rintro ⟨noReturn, noCapital⟩
    rw [settled, Text.replaceAll_of_not_infix noCapital, plainBreaks_of_not_mem noReturn]

theorem settled_ne_nil {s : List Char} (h : s ≠ []) : settled s ≠ [] := by
  obtain ⟨c, rest, rfl⟩ := List.exists_cons_of_ne_nil h
  rw [settled, Text.replaceAll]
  split
  · simp [plainBreaks]
  · unfold plainBreaks
    split <;> simp_all

end FeedSieve.ICalendar
