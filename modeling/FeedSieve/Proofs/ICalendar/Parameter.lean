import FeedSieve.Proofs.ICalendar.ContentLine
import FeedSieve.Proofs.Text.Ascii

/-!
# Lines with a parameter

A parameter whose value has none of the characters that mean something in a line is read as that value, and
the line around it as its name, this parameter and what the value of the line stands for
(`ContentLine.parse_with`).
-/
namespace FeedSieve.ICalendar

/-- A character that is allowed in a line and means nothing there. -/
def isOrdinary (c : Char) : Bool :=
  !isUnsafe c && !(c ∈ [' ', '\t', ';', '=', ':', ',', '\\', '^', '%'])

/-- A text of characters that mean nothing. -/
def Ordinary (s : List Char) : Prop := ∀ c ∈ s, isOrdinary c = true

theorem Ordinary.not_mem {s : List Char} (ordinary : Ordinary s) {mark : Char} (marked : isOrdinary mark = false) :
    mark ∉ s := by
  intro member
  rw [ordinary mark member] at marked
  cases marked

theorem Capital.ordinary {name : List Char} (h : Capital name) : Ordinary name := by
  have each : ∀ n : Fin 128, (Char.ofNat n.val).isUpper = true → isOrdinary (Char.ofNat n.val) = true := by
    decide
  intro c member
  have ascii : c.toNat < 128 := by
    have range := code_of_isUpper (h.upper c member)
    omega
  exact Text.forall_ascii (P := fun c => c.isUpper = true → isOrdinary c = true) each ascii
    (h.upper c member)

/-! ## Cutting and splitting -/

/-- A text is cut at the first delimiter. -/
theorem cut_of_solid {isMark : Char → Bool} {s : List Char}
    (solid : ∀ c ∈ s, isMark c = false ∧ c ≠ '"' ∧ c ≠ '\\') {mark : Char} (marked : isMark mark = true)
    (rest : List Char) : cut isMark false false (s ++ mark :: rest) = (s, some (mark, rest)) := by
  induction s with
  | nil => simp [cut, marked]
  | cons c s ih =>
    obtain ⟨plain, unquoted, unshielded⟩ := solid c List.mem_cons_self
    have later := ih fun d member => solid d (List.mem_cons_of_mem c member)
    rw [List.cons_append, cut]
    simp [plain, unquoted, unshielded, later]

theorem splitPieces_of_not_mem {mark : Char} {s : List Char} (absent : mark ∉ s) (unquoted : '"' ∉ s) :
    splitPieces mark false s = [s] := by
  induction s with
  | nil => rfl
  | cons c s ih =>
    rw [List.mem_cons, not_or] at absent unquoted
    have plain : c ≠ '"' := Ne.symm unquoted.1
    rw [splitPieces, if_neg (fun h => absent.1 h.1.symm), if_neg plain, ih absent.2 unquoted.2]

theorem pieces_of_not_mem {mark : Char} {s : List Char} (nonempty : s ≠ []) (absent : mark ∉ s)
    (unquoted : '"' ∉ s) : pieces mark s = [s] := by
  rw [pieces, if_neg nonempty, splitPieces_of_not_mem absent unquoted]

theorem splitFirst_of_not_mem {mark : Char} {s : List Char} (absent : mark ∉ s) (unquoted : '"' ∉ s)
    (rest : List Char) : splitFirst mark false (s ++ mark :: rest) = (s, some rest) := by
  induction s with
  | nil => simp [splitFirst]
  | cons c s ih =>
    rw [List.mem_cons, not_or] at absent unquoted
    have plain : c ≠ '"' := Ne.symm unquoted.1
    rw [List.cons_append, splitFirst, if_neg (fun h => absent.1 h.1.symm), if_neg plain,
      ih absent.2 unquoted.2]

/-- A text without blanks and quotation marks has nothing to drop. -/
theorem tightenFrom_of_solid {s : List Char} (solid : ∀ c ∈ s, isBlank c = false ∧ c ≠ '"') (fresh : Bool) :
    tightenFrom false fresh [] s = s := by
  induction s generalizing fresh with
  | nil => rfl
  | cons c s ih =>
    obtain ⟨printed, unquoted⟩ := solid c List.mem_cons_self
    have later := ih fun d member => solid d (List.mem_cons_of_mem c member)
    have opens : (c == '"') = false := beq_eq_false_iff_ne.mpr unquoted
    rw [tightenFrom, if_neg (by decide), if_neg (by simp [printed]), opens]
    split
    · rw [later]
    · rw [later, List.nil_append]

/-! ## Escapes that are not there -/

theorem shield_of_not_mem {s : List Char} (absent : '\\' ∉ s) : shield s = s := by
  have same (c : Char) (code : List Char) : Text.replaceAll ['\\', c] code s = s :=
    Text.replaceAll_of_not_infix fun occurs => absent (occurs.subset List.mem_cons_self)
  simp only [shield, percentCodes, List.foldl_cons, List.foldl_nil, same]

theorem unshield_of_not_mem {s : List Char} (absent : '%' ∉ s) : unshield s = s := by
  have same (code image : List Char) (starts : '%' ∈ code) : Text.replaceAll code image s = s :=
    Text.replaceAll_of_not_infix fun occurs => absent (occurs.subset starts)
  rw [unshield, percentCodes]
  simp only [List.foldl_cons, List.foldl_nil]
  rw [same _ _ (by decide), same _ _ (by decide), same _ _ (by decide), same _ _ (by decide)]

theorem readCircumflex_of_not_mem {s : List Char} (absent : '^' ∉ s) : readCircumflex s = s := by
  fun_induction readCircumflex s <;> simp_all

/-! ## Reading -/

section Reading

variable {name key value : List Char}

theorem readValue_ordinary (ordinary : Ordinary value) : readValue value = .ok (String.ofList value) := by
  have bare : ¬ (value.head? = some '"' ∧ value.getLast? = some '"') := fun h =>
    ordinary.not_mem (by decide) (List.mem_of_head? h.1)
  have allowed : value.any (fun c => isUnsafe c || (c == ',' || c == ':' || c == ';')) = false := by
    rw [List.any_eq_false]
    intro c member
    have here := ordinary c member
    simp only [isOrdinary, Bool.and_eq_true, Bool.not_eq_true', decide_eq_false_iff_not,
      List.mem_cons, not_or] at here
    simp [here]
  rw [readValue]
  simp only [bare, decide_false, Bool.false_eq_true, if_false, Bool.not_false, Bool.true_and, allowed,
    readCircumflex_of_not_mem (ordinary.not_mem (by decide)),
    unshield_of_not_mem (ordinary.not_mem (by decide))]

/-- A parameter with an ordinary value is read as that value. -/
theorem readParameter_ordinary (capital : Capital key) (ordinary : Ordinary value) (nonempty : value ≠ []) :
    readParameter (key ++ '=' :: value) = .ok ⟨String.ofList key, [String.ofList value]⟩ := by
  have split : splitFirst '=' false (key ++ '=' :: value) = (key, some value) :=
    splitFirst_of_not_mem (capital.ordinary.not_mem (by decide)) (capital.ordinary.not_mem (by decide)) value
  have one : pieces ',' value = [value] :=
    pieces_of_not_mem nonempty (ordinary.not_mem (by decide)) (ordinary.not_mem (by decide))
  have plain : unshield key = key := unshield_of_not_mem (capital.ordinary.not_mem (by decide))
  obtain ⟨c, more, rfl⟩ := List.exists_cons_of_ne_nil capital.nonempty
  rw [List.cons_append] at split ⊢
  unfold readParameter
  rw [split]
  dsimp only
  rw [if_pos (isName_capital capital), if_neg nonempty, one, List.mapM_cons, readValue_ordinary ordinary,
    plain, upper_capital capital]
  rfl

/-- Nothing but the equals sign means something in such a parameter. -/
theorem not_mem_parameter (capital : Capital key) (ordinary : Ordinary value) {mark : Char}
    (marked : isOrdinary mark = false) (other : mark ≠ '=') : mark ∉ key ++ '=' :: value := by
  rw [List.mem_append, List.mem_cons]
  rintro (inKey | same | inValue)
  · exact capital.ordinary.not_mem marked inKey
  · exact other same
  · exact ordinary.not_mem marked inValue

theorem readParameters_ordinary (capital : Capital key) (ordinary : Ordinary value) (nonempty : value ≠ []) :
    readParameters (key ++ '=' :: value) = .ok [⟨String.ofList key, [String.ofList value]⟩] := by
  have absent {mark : Char} (marked : isOrdinary mark = false) (other : mark ≠ '=') :=
    not_mem_parameter capital ordinary marked other
  have solid : ∀ c ∈ key ++ '=' :: value, isBlank c = false ∧ c ≠ '"' := by
    intro c member
    refine ⟨?_, fun quote => absent (by decide) (by decide) (quote ▸ member)⟩
    rw [isBlank, Bool.or_eq_false_iff, beq_eq_false_iff_ne, beq_eq_false_iff_ne]
    exact ⟨fun space => absent (by decide) (by decide) (space ▸ member),
      fun tab => absent (by decide) (by decide) (tab ▸ member)⟩
  rw [readParameters, tighten, tightenFrom_of_solid solid, shield_of_not_mem (absent (by decide) (by decide)),
    pieces_of_not_mem (by simp) (absent (by decide) (by decide)) (absent (by decide) (by decide)),
    List.mapM_cons, readParameter_ordinary capital ordinary nonempty]
  rfl

/-- A line is cut at the semicolon behind its name. -/
theorem cutName_semicolon (capital : Capital name) (rest : List Char) :
    cutName (name ++ ';' :: rest) = (name, some (';', rest)) := by
  have other {mark : Char} (marked : isOrdinary mark = false) {c : Char} (member : c ∈ name) : c ≠ mark :=
    fun same => capital.ordinary.not_mem marked (same ▸ member)
  have solid : ∀ c ∈ name, (c == ':' || c == ';') = false ∧ c ≠ '"' ∧ c ≠ '\\' := by
    intro c member
    refine ⟨?_, other (by decide) member, other (by decide) member⟩
    rw [Bool.or_eq_false_iff, beq_eq_false_iff_ne, beq_eq_false_iff_ne]
    exact ⟨other (by decide) member, other (by decide) member⟩
  obtain ⟨c, more, rfl⟩ := List.exists_cons_of_ne_nil capital.nonempty
  obtain ⟨-, unquoted, unshielded⟩ := solid c List.mem_cons_self
  have later : cut (fun c => c == ':' || c == ';') false false (more ++ ';' :: rest)
      = (more, some (';', rest)) :=
    cut_of_solid (fun d member => solid d (List.mem_cons_of_mem c member)) (by decide) rest
  rw [List.cons_append, cutName, beq_eq_false_iff_ne.mpr unquoted, beq_eq_false_iff_ne.mpr unshielded, later]

/-- A line with one parameter is read as its name, that parameter and what its value stands for. -/
theorem ContentLine.parse_with (named : Capital name) (capital : Capital key) (ordinary : Ordinary value)
    (nonempty : value ≠ []) (text : List Char) :
    parse (name ++ ';' :: (key ++ '=' :: value ++ ':' :: text))
      = .ok ⟨String.ofList name, [⟨String.ofList key, [String.ofList value]⟩], String.ofList (unescape text)⟩ := by
  have other {mark : Char} (marked : isOrdinary mark = false) (different : mark ≠ '=') {c : Char}
      (member : c ∈ key ++ '=' :: value) : c ≠ mark :=
    fun same => not_mem_parameter capital ordinary marked different (same ▸ member)
  -- No other mark than the equals sign stands in the parameter, so that the next colon ends it.
  have cutValue : cut (· == ':') false false (key ++ '=' :: value ++ ':' :: text)
      = (key ++ '=' :: value, some (':', text)) :=
    cut_of_solid (fun c member => ⟨beq_eq_false_iff_ne.mpr (other (by decide) (by decide) member),
      other (by decide) (by decide) member, other (by decide) (by decide) member⟩) (by decide) text
  obtain ⟨c, more, starts⟩ := List.exists_cons_of_ne_nil capital.nonempty
  unfold parse
  simp only [cutName_semicolon named, filter_isBlank_capital named, isName_capital named, not_true_eq_false,
    if_false, upper_capital named]
  split
  · rename_i none_
    cases none_
  · rename_i colon
    cases colon
  · rename_i semicolon
    cases semicolon
    rw [cutValue, starts]
    dsimp only [List.cons_append]
    rw [← List.cons_append, ← starts, readParameters_ordinary capital ordinary nonempty]
    rfl

end Reading

end FeedSieve.ICalendar
