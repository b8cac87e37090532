import FeedSieve.Text.Json

/-!
# What a JSON text stands for

The grammar of JSON as relations between a text, what its front stands for and what is left of it. The
text written for a value of texts, arrays and objects stands for that value and for no other
(`denotes_write`), and it holds no control character.
-/
namespace FeedSieve.Text.Json

/-! ## The grammar -/

def Blank (c : Char) : Prop := c = ' ' ∨ c = '\n' ∨ c = '\r' ∨ c = '\t'

inductive Blanks : List Char → List Char → Prop where
  | done {rest : List Char} : Blanks rest rest
  | more {c : Char} {s rest : List Char} : Blank c → Blanks s rest → Blanks (c :: s) rest

def FirstHalf (n : Nat) : Prop := 0xD800 ≤ n ∧ n < 0xDC00

def SecondHalf (n : Nat) : Prop := 0xDC00 ≤ n ∧ n < 0xE000

/-- The characters of a text up to and with its closing quotation mark. -/
inductive Body : List Char → List Char → List Char → Prop where
  | close {rest : List Char} : Body ('"' :: rest) [] rest
  | plain {c : Char} {s text rest : List Char} : 32 ≤ c.toNat → c ≠ '"' → c ≠ '\\' →
      Body s text rest → Body (c :: s) (c :: text) rest
  | short {c e : Char} {s text rest : List Char} : shortEscape? c = some e →
      Body s text rest → Body ('\\' :: c :: s) (e :: text) rest
  | unit {a b c d : Char} {n : Nat} {s text rest : List Char} : unit? a b c d = some n →
      ¬ FirstHalf n → ¬ SecondHalf n →
      Body s text rest → Body ('\\' :: 'u' :: a :: b :: c :: d :: s) (Char.ofNat n :: text) rest
  | pair {a b c d e f g h : Char} {n m : Nat} {s text rest : List Char} : unit? a b c d = some n →
      unit? e f g h = some m → FirstHalf n → SecondHalf m → Body s text rest →
      Body ('\\' :: 'u' :: a :: b :: c :: d :: '\\' :: 'u' :: e :: f :: g :: h :: s)
        (Char.ofNat (0x10000 + (n - 0xD800) * 1024 + (m - 0xDC00)) :: text) rest

def Digits (s : List Char) : Prop := s ≠ [] ∧ ∀ c ∈ s, c.isDigit = true

inductive Fraction : List Char → Prop where
  | none : Fraction []
  | some {digits : List Char} : Digits digits → Fraction ('.' :: digits)

inductive Exponent : List Char → Prop where
  | none : Exponent []
  | some {mark : Char} {sign digits : List Char} : mark ∈ ['e', 'E'] → sign ∈ [[], ['+'], ['-']] →
      Digits digits → Exponent (mark :: sign ++ digits)

/-- The text of a number: digits without a leading zero, perhaps with a sign in front, a fraction and
an exponent. -/
inductive Numeral : List Char → Prop where
  | mk {sign whole fraction exponent : List Char} : sign ∈ [[], ['-']] → Digits whole →
      (whole.head? = some '0' → whole = ['0']) → Fraction fraction → Exponent exponent →
      Numeral (sign ++ (whole ++ (fraction ++ exponent)))

mutual

/-- A value, its text without blanks around it, and the rest. -/
inductive Value : List Char → Json → List Char → Prop where
  | null {rest : List Char} : Value ('n' :: 'u' :: 'l' :: 'l' :: rest) .null rest
  | true {rest : List Char} : Value ('t' :: 'r' :: 'u' :: 'e' :: rest) (.bool .true) rest
  | false {rest : List Char} : Value ('f' :: 'a' :: 'l' :: 's' :: 'e' :: rest) (.bool .false) rest
  | number {s digits rest : List Char} : Numeral digits → s = digits ++ rest →
      Value s (.number (String.ofList digits)) rest
  | string {s text rest : List Char} : Body s text rest →
      Value ('"' :: s) (.string (String.ofList text)) rest
  | noItems {s rest : List Char} : Blanks s (']' :: rest) → Value ('[' :: s) (.array []) rest
  | array {s rest : List Char} {items : List Json} : Items s items rest →
      Value ('[' :: s) (.array items) rest
  | noFields {s rest : List Char} : Blanks s ('\x7d' :: rest) → Value ('\x7b' :: s) (.object []) rest
  | object {s rest : List Char} {fields : List (String × Json)} : Fields s fields rest →
      Value ('\x7b' :: s) (.object fields) rest

/-- The items of an array, at least one, up to and with the closing bracket. -/
inductive Items : List Char → List Json → List Char → Prop where
  | last {s front back rest : List Char} {v : Json} : Blanks s front → Value front v back →
      Blanks back (']' :: rest) → Items s [v] rest
  | more {s front back next rest : List Char} {v : Json} {items : List Json} : Blanks s front →
      Value front v back → Blanks back (',' :: next) → Items next items rest →
      Items s (v :: items) rest

/-- The fields of an object, at least one, up to and with the closing brace. -/
inductive Fields : List Char → List (String × Json) → List Char → Prop where
  | last {s named colon after front back rest name : List Char} {v : Json} :
      Blanks s ('"' :: named) → Body named name colon → Blanks colon (':' :: after) →
      Blanks after front → Value front v back → Blanks back ('\x7d' :: rest) →
      Fields s [(String.ofList name, v)] rest
  | more {s named colon after front back next rest name : List Char} {v : Json}
      {fields : List (String × Json)} : Blanks s ('"' :: named) → Body named name colon →
      Blanks colon (':' :: after) → Blanks after front → Value front v back →
      Blanks back (',' :: next) → Fields next fields rest →
      Fields s ((String.ofList name, v) :: fields) rest

end

/-- A whole text stands for a value: the value's text with nothing but blanks around it. -/
def Denotes (s : List Char) (v : Json) : Prop :=
  ∃ front back, Blanks s front ∧ Value front v back ∧ Blanks back []

/-! ## Blanks -/

/-- No blank stands in front. -/
def Solid (s : List Char) : Prop := ∀ {rest}, Blanks s rest → rest = s

theorem solid_cons {c : Char} (token : ¬ Blank c) (s : List Char) : Solid (c :: s) := by
  intro rest blanks
  cases blanks with
  | done => rfl
  | more blank => exact absurd blank token

theorem not_blank_quote : ¬ Blank '"' := by unfold Blank; decide
theorem not_blank_comma : ¬ Blank ',' := by unfold Blank; decide
theorem not_blank_colon : ¬ Blank ':' := by unfold Blank; decide
theorem not_blank_bracket : ¬ Blank '[' := by unfold Blank; decide
theorem not_blank_closeBracket : ¬ Blank ']' := by unfold Blank; decide
theorem not_blank_brace : ¬ Blank '\x7b' := by unfold Blank; decide
theorem not_blank_closeBrace : ¬ Blank '\x7d' := by unfold Blank; decide

/-! ## Texts -/

/-- A body stands for one text only, and ends in one place. -/
theorem Body.unique {s text rest text' rest' : List Char} (body : Body s text rest)
    (other : Body s text' rest') : text' = text ∧ rest' = rest := by
  -- The first characters tell the rules apart, but for the two with a code unit: there the unit does.
  induction body generalizing text' rest' with
  | close =>
    cases other with
    | close => exact ⟨rfl, rfl⟩
    | plain _ quote => exact absurd rfl quote
  | plain _ quote slash _ ih =>
    cases other with
    | close => exact absurd rfl quote
    | plain _ _ _ tail =>
      obtain ⟨rfl, rfl⟩ := ih tail
      exact ⟨rfl, rfl⟩
    | short | unit | pair => exact absurd rfl slash
  | short meant _ ih =>
    cases other with
    | plain _ _ slash => exact absurd rfl slash
    | short meant' tail =>
      obtain ⟨rfl, rfl⟩ := ih tail
      rw [meant] at meant'
      cases meant'
      exact ⟨rfl, rfl⟩
    | unit | pair => exact absurd meant (by simp [shortEscape?])
  | unit code noFirst _ _ ih =>
    cases other with
    | plain _ _ slash => exact absurd rfl slash
    | short meant => exact absurd meant (by simp [shortEscape?])
    | unit code' _ _ tail =>
      obtain ⟨rfl, rfl⟩ := ih tail
      rw [code] at code'
      cases code'
      exact ⟨rfl, rfl⟩
    | pair code' _ first =>
      rw [code] at code'
      cases code'
      exact absurd first noFirst
  | pair code code₂ first _ _ ih =>
    cases other with
    | plain _ _ slash => exact absurd rfl slash
    | short meant => exact absurd meant (by simp [shortEscape?])
    | unit code' noFirst =>
      rw [code] at code'
      cases code'
      exact absurd first noFirst
    | pair code' code₂' _ _ tail =>
      obtain ⟨rfl, rfl⟩ := ih tail
      rw [code] at code'
      rw [code₂] at code₂'
      cases code'
      cases code₂'
      exact ⟨rfl, rfl⟩

theorem unit?_hexUnit : ∀ n : Fin 32, ∃ a b c d, hexUnit n = [a, b, c, d] ∧ unit? a b c d = some n.val :=
  fun n => ⟨_, _, _, _, rfl, by revert n; decide⟩

/-- A written character stands for itself in front of a body. -/
theorem body_escaped (c : Char) {s text rest : List Char} (body : Body s text rest) :
    Body (escaped c ++ s) (c :: text) rest := by
  unfold escaped
  split
  case isTrue quote => exact .short (by rw [quote]; decide) body
  split
  case isTrue slash => exact .short (by rw [slash]; decide) body
  split
  case isTrue feed => exact .short (by rw [feed]; decide) body
  split
  case isTrue back => exact .short (by rw [back]; decide) body
  split
  case isTrue tab => exact .short (by rw [tab]; decide) body
  split
  case isTrue eight =>
    have char : Char.ofNat 8 = c := by rw [← eight, Char.ofNat_toNat]
    exact .short (by rw [← char]; decide) body
  split
  case isTrue twelve =>
    have char : Char.ofNat 12 = c := by rw [← twelve, Char.ofNat_toNat]
    exact .short (by rw [← char]; decide) body
  split
  case isTrue control =>
    obtain ⟨a, b, d, e, digits, code⟩ := unit?_hexUnit ⟨c.toNat, control⟩
    have read := Body.unit code (fun half => by have := half.1; omega)
      (fun half => by have := half.1; omega) body
    rw [Char.ofNat_toNat] at read
    dsimp only at digits
    rw [digits]
    exact read
  case isFalse quote slash _ _ _ _ _ visible => exact .plain (by omega) quote slash body

theorem body_flatMap_escaped (text rest : List Char) :
    Body (text.flatMap escaped ++ '"' :: rest) text rest := by
  induction text with
  | nil => exact .close
  | cons c text ih =>
    rw [List.flatMap_cons, List.append_assoc]
    exact body_escaped c ih

theorem writeText_append (s : String) (rest : List Char) :
    writeText s ++ rest = '"' :: (s.toList.flatMap escaped ++ '"' :: rest) := by
  simp [writeText]

/-- The body of a written text stands for the text, and for nothing else. -/
theorem body_writeText (s : String) {text rest rest' : List Char} :
    Body (s.toList.flatMap escaped ++ '"' :: rest) text rest' ↔ text = s.toList ∧ rest' = rest := by
  constructor
  · exact (body_flatMap_escaped s.toList rest).unique
  · rintro ⟨rfl, rfl⟩
    exact body_flatMap_escaped _ _

/-! ## First characters -/

theorem Numeral.start {digits : List Char} (numeral : Numeral digits) :
    ∃ c rest, digits = c :: rest ∧ (c = '-' ∨ c.isDigit = true) := by
  cases numeral with
  | mk sign whole =>
    obtain ⟨c, rest, rfl⟩ := List.exists_cons_of_ne_nil whole.1
    simp only [List.mem_cons, List.not_mem_nil, or_false] at sign
    rcases sign with rfl | rfl
    · exact ⟨c, _, rfl, .inr (whole.2 c List.mem_cons_self)⟩
    · exact ⟨'-', _, rfl, .inl rfl⟩

theorem not_numeral {digits rest s : List Char} {c : Char} (numeral : Numeral digits)
    (text : c :: s = digits ++ rest) : c = '-' ∨ c.isDigit = true := by
  obtain ⟨first, more, rfl, start⟩ := numeral.start
  rw [List.cons_append, List.cons.injEq] at text
  rw [text.1]
  exact start

theorem value_quote {s rest : List Char} {v : Json} :
    Value ('"' :: s) v rest ↔ ∃ text, v = .string (String.ofList text) ∧ Body s text rest := by
  constructor
  · intro value
    cases value with
    | number numeral text => exact absurd (not_numeral numeral text) (by decide)
    | string body => exact ⟨_, rfl, body⟩
  · rintro ⟨text, rfl, body⟩
    exact .string body

theorem value_bracket {s rest : List Char} {v : Json} : Value ('[' :: s) v rest ↔
    (v = .array [] ∧ Blanks s (']' :: rest)) ∨ ∃ items, v = .array items ∧ Items s items rest := by
  constructor
  · intro value
    cases value with
    | number numeral text => exact absurd (not_numeral numeral text) (by decide)
    | noItems blanks => exact .inl ⟨rfl, blanks⟩
    | array items => exact .inr ⟨_, rfl, items⟩
  · rintro (⟨rfl, blanks⟩ | ⟨items, rfl, inside⟩)
    · exact .noItems blanks
    · exact .array inside

theorem value_brace {s rest : List Char} {v : Json} : Value ('\x7b' :: s) v rest ↔
    (v = .object [] ∧ Blanks s ('\x7d' :: rest))
      ∨ ∃ fields, v = .object fields ∧ Fields s fields rest := by
  constructor
  · intro value
    cases value with
    | number numeral text => exact absurd (not_numeral numeral text) (by decide)
    | noFields blanks => exact .inl ⟨rfl, blanks⟩
    | object fields => exact .inr ⟨_, rfl, fields⟩
  · rintro (⟨rfl, blanks⟩ | ⟨fields, rfl, inside⟩)
    · exact .noFields blanks
    · exact .object inside

theorem not_value_closeBracket {s rest : List Char} {v : Json} : ¬ Value (']' :: s) v rest := by
  intro value
  cases value with
  | number numeral text => exact absurd (not_numeral numeral text) (by decide)

/-! ## Values -/

/-- Whatever follows it, the written text of a value stands for the value, and for nothing else. -/
structure Faithful (v : Json) : Prop where
  solid : ∀ rest, Solid (write v ++ rest)
  value : ∀ rest w rest', Value (write v ++ rest) w rest' ↔ w = v ∧ rest' = rest

theorem faithful_string (s : String) : Faithful (.string s) where
  solid rest := by
    rw [write, writeText_append]
    exact solid_cons not_blank_quote _
  value rest w rest' := by
    rw [write, writeText_append, value_quote]
    simp only [body_writeText]
    constructor
    · rintro ⟨text, rfl, rfl, rfl⟩
      exact ⟨congrArg _ String.ofList_toList, rfl⟩
    · rintro ⟨rfl, rfl⟩
      exact ⟨s.toList, congrArg _ String.ofList_toList.symm, rfl, rfl⟩

/-- What is read where a value was written is the value, up to where it was written. -/
theorem Faithful.read {v w : Json} (faithful : Faithful v) {rest front back : List Char}
    (blanks : Blanks (write v ++ rest) front) (value : Value front w back) : w = v ∧ back = rest := by
  rw [faithful.solid rest blanks] at value
  exact (faithful.value rest w back).mp value

theorem Faithful.written {v : Json} (faithful : Faithful v) (rest : List Char) :
    Value (write v ++ rest) v rest :=
  (faithful.value rest v rest).mpr ⟨rfl, rfl⟩

/-! ## Arrays -/

theorem writeItems_one (v : Json) (rest : List Char) :
    writeItems [v] ++ rest = write v ++ ']' :: rest := by simp [writeItems]

theorem writeItems_more (v u : Json) (us : List Json) (rest : List Char) :
    writeItems (v :: u :: us) ++ rest = write v ++ ',' :: (writeItems (u :: us) ++ rest) := by
  simp [writeItems]

/-- The items of an array are read up to its bracket as they were written. -/
theorem items_writeItems {v : Json} {vs : List Json} (faithful : ∀ u ∈ v :: vs, Faithful u)
    {ws : List Json} {rest rest' : List Char} :
    Items (writeItems (v :: vs) ++ rest) ws rest' ↔ ws = v :: vs ∧ rest' = rest := by
  have first := faithful v List.mem_cons_self
  -- The mark behind the first item tells whether another one follows.
  induction vs generalizing v ws with
  | nil =>
    rw [writeItems_one]
    constructor
    · intro items
      cases items with
      | last blanks value close =>
        obtain ⟨rfl, rfl⟩ := first.read blanks value
        cases solid_cons not_blank_closeBracket _ close
        exact ⟨rfl, rfl⟩
      | more blanks value comma =>
        obtain ⟨rfl, rfl⟩ := first.read blanks value
        exact absurd (solid_cons not_blank_closeBracket _ comma) (by simp)
    · rintro ⟨rfl, rfl⟩
      exact .last .done (first.written _) .done
  | cons u us ih =>
    have later : ∀ t ∈ u :: us, Faithful t := fun t member =>
      faithful t (List.mem_cons_of_mem v member)
    have second := later u List.mem_cons_self
    rw [writeItems_more]
    constructor
    · intro items
      cases items with
      | last blanks value close =>
        obtain ⟨rfl, rfl⟩ := first.read blanks value
        exact absurd (solid_cons not_blank_comma _ close) (by simp)
      | more blanks value comma tail =>
        obtain ⟨rfl, rfl⟩ := first.read blanks value
        cases solid_cons not_blank_comma _ comma
        obtain ⟨rfl, rfl⟩ := (ih later second).mp tail
        exact ⟨rfl, rfl⟩
    · rintro ⟨rfl, rfl⟩
      exact .more .done (first.written _) .done ((ih later second).mpr ⟨rfl, rfl⟩)

/-- Where an item was written no array ends. -/
theorem not_blanks_writeItems {v : Json} (faithful : Faithful v) (vs : List Json)
    (rest rest' : List Char) : ¬ Blanks (writeItems (v :: vs) ++ rest) (']' :: rest') := by
  obtain ⟨more, text⟩ : ∃ more, writeItems (v :: vs) ++ rest = write v ++ more := by
    cases vs with
    | nil => exact ⟨_, writeItems_one v rest⟩
    | cons u us => exact ⟨_, writeItems_more v u us rest⟩
  intro blanks
  rw [text] at blanks
  have value := faithful.written more
  rw [← faithful.solid more blanks] at value
  exact not_value_closeBracket value

theorem faithful_array {vs : List Json} (faithful : ∀ v ∈ vs, Faithful v) : Faithful (.array vs) where
  solid rest := by
    rw [write, List.cons_append]
    exact solid_cons not_blank_bracket _
  value rest w rest' := by
    rw [write, List.cons_append, value_bracket]
    cases vs with
    | nil =>
      have text : writeItems [] ++ rest = ']' :: rest := by simp [writeItems]
      rw [text]
      constructor
      · rintro (⟨rfl, blanks⟩ | ⟨items, rfl, inside⟩)
        · cases solid_cons not_blank_closeBracket _ blanks
          exact ⟨rfl, rfl⟩
        · cases inside with
          | last blanks value | more blanks value =>
            rw [solid_cons not_blank_closeBracket _ blanks] at value
            exact absurd value not_value_closeBracket
      · rintro ⟨rfl, rfl⟩
        exact .inl ⟨rfl, .done⟩
    | cons v vs =>
      have first := faithful v List.mem_cons_self
      constructor
      · rintro (⟨-, blanks⟩ | ⟨items, rfl, inside⟩)
        · exact absurd blanks (not_blanks_writeItems first vs rest rest')
        · obtain ⟨rfl, rfl⟩ := (items_writeItems faithful).mp inside
          exact ⟨rfl, rfl⟩
      · rintro ⟨rfl, rfl⟩
        exact .inr ⟨_, rfl, (items_writeItems faithful).mpr ⟨rfl, rfl⟩⟩

/-! ## Objects -/

theorem writeFields_one (name : String) (v : Json) (rest : List Char) :
    writeFields [(name, v)] ++ rest
      = '"' :: (name.toList.flatMap escaped ++ '"' :: ':' :: (write v ++ '\x7d' :: rest)) := by
  simp [writeFields, writeText]

theorem writeFields_more (name : String) (v : Json) (f : String × Json) (fs : List (String × Json))
    (rest : List Char) :
    writeFields ((name, v) :: f :: fs) ++ rest
      = '"' :: (name.toList.flatMap escaped
        ++ '"' :: ':' :: (write v ++ ',' :: (writeFields (f :: fs) ++ rest))) := by
  simp [writeFields, writeText]

/-- What is read where a name, a colon and a value were written. -/
theorem Faithful.readField {v w : Json} (faithful : Faithful v) {key : String}
    {more named name colon after front back : List Char}
    (opened : Blanks ('"' :: (key.toList.flatMap escaped ++ '"' :: ':' :: (write v ++ more)))
      ('"' :: named))
    (body : Body named name colon) (between : Blanks colon (':' :: after)) (blanks : Blanks after front)
    (value : Value front w back) :
    (String.ofList name, w) = (key, v) ∧ back = more := by
  cases solid_cons not_blank_quote _ opened
  obtain ⟨rfl, rfl⟩ := (body_writeText key).mp body
  cases solid_cons not_blank_colon _ between
  obtain ⟨rfl, rfl⟩ := faithful.read blanks value
  exact ⟨congrArg (·, w) String.ofList_toList, rfl⟩

/-- The fields of an object are read up to its brace as they were written. -/
theorem fields_writeFields {f : String × Json} {fs : List (String × Json)}
    (faithful : ∀ g ∈ f :: fs, Faithful g.2) {gs : List (String × Json)} {rest rest' : List Char} :
    Fields (writeFields (f :: fs) ++ rest) gs rest' ↔ gs = f :: fs ∧ rest' = rest := by
  obtain ⟨name, v⟩ := f
  have first : Faithful v := faithful _ List.mem_cons_self
  induction fs generalizing name v gs with
  | nil =>
    rw [writeFields_one]
    constructor
    · intro fields
      cases fields with
      | last opened body between blanks value close =>
        obtain ⟨field, rfl⟩ := first.readField opened body between blanks value
        cases solid_cons not_blank_closeBrace _ close
        rw [field]
        exact ⟨rfl, rfl⟩
      | more opened body between blanks value comma =>
        obtain ⟨-, rfl⟩ := first.readField opened body between blanks value
        exact absurd (solid_cons not_blank_closeBrace _ comma) (by simp)
    · rintro ⟨rfl, rfl⟩
      have body := body_flatMap_escaped name.toList (':' :: (write v ++ '\x7d' :: rest'))
      have read := Fields.last .done body .done .done (first.written _) .done
      rw [String.ofList_toList] at read
      exact read
  | cons g more ih =>
    have later : ∀ h ∈ g :: more, Faithful h.2 := fun h member =>
      faithful h (List.mem_cons_of_mem _ member)
    have second := later g List.mem_cons_self
    have next {hs : List (String × Json)} := @ih hs g.1 g.2 later second
    rw [writeFields_more]
    constructor
    · intro fields
      cases fields with
      | last opened body between blanks value close =>
        obtain ⟨-, rfl⟩ := first.readField opened body between blanks value
        exact absurd (solid_cons not_blank_comma _ close) (by simp)
      | more opened body between blanks value comma tail =>
        obtain ⟨field, rfl⟩ := first.readField opened body between blanks value
        cases solid_cons not_blank_comma _ comma
        obtain ⟨rfl, rfl⟩ := next.mp tail
        rw [field]
        exact ⟨rfl, rfl⟩
    · rintro ⟨rfl, rfl⟩
      have body := body_flatMap_escaped name.toList
        (':' :: (write v ++ ',' :: (writeFields (g :: more) ++ rest')))
      have read := Fields.more .done body .done .done (first.written _) .done
        (next.mpr ⟨rfl, rfl⟩)
      rw [String.ofList_toList] at read
      exact read

theorem faithful_object {fs : List (String × Json)} (faithful : ∀ f ∈ fs, Faithful f.2) :
    Faithful (.object fs) where
  solid rest := by
    rw [write, List.cons_append]
    exact solid_cons not_blank_brace _
  value rest w rest' := by
    rw [write, List.cons_append, value_brace]
    cases fs with
    | nil =>
      have text : writeFields [] ++ rest = '\x7d' :: rest := by simp [writeFields]
      rw [text]
      constructor
      · rintro (⟨rfl, blanks⟩ | ⟨fields, rfl, inside⟩)
        · cases solid_cons not_blank_closeBrace _ blanks
          exact ⟨rfl, rfl⟩
        · cases inside with
          | last opened | more opened =>
            exact absurd (solid_cons not_blank_closeBrace _ opened) (by simp)
      · rintro ⟨rfl, rfl⟩
        exact .inl ⟨rfl, .done⟩
    | cons f fs =>
      have opened : ∃ more, writeFields (f :: fs) ++ rest = '"' :: more := by
        cases fs with
        | nil => exact ⟨_, writeFields_one f.1 f.2 rest⟩
        | cons g gs => exact ⟨_, writeFields_more f.1 f.2 g gs rest⟩
      constructor
      · rintro (⟨-, blanks⟩ | ⟨fields, rfl, inside⟩)
        · obtain ⟨more, text⟩ := opened
          rw [text] at blanks
          exact absurd (solid_cons not_blank_quote _ blanks) (by simp)
        · obtain ⟨rfl, rfl⟩ := (fields_writeFields faithful).mp inside
          exact ⟨rfl, rfl⟩
      · rintro ⟨rfl, rfl⟩
        exact .inr ⟨_, rfl, (fields_writeFields faithful).mpr ⟨rfl, rfl⟩⟩

/-! ## Whole texts -/

/-- A written value is the only one that its text stands for. -/
theorem denotes_write {v : Json} (faithful : Faithful v) (w : Json) : Denotes (write v) w ↔ w = v := by
  have whole : write v = write v ++ [] := (List.append_nil _).symm
  rw [whole]
  constructor
  · rintro ⟨front, back, blanks, value, -⟩
    exact (faithful.read blanks value).1
  · rintro rfl
    exact ⟨_, [], .done, faithful.written [], .done⟩

/-! ## Visible characters -/

/-- No control character stands in a text. -/
def Visible (s : List Char) : Prop := ∀ c ∈ s, 32 ≤ c.toNat

theorem visible_hexUnit (n : Fin 32) : Visible (hexUnit n) := by
  have each : ∀ n : Fin 32, (hexUnit n).all (32 ≤ ·.toNat) = true := by decide
  intro c member
  exact of_decide_eq_true (List.all_eq_true.mp (each n) c member)

theorem visible_append {s t : List Char} : Visible (s ++ t) ↔ Visible s ∧ Visible t :=
  List.forall_mem_append

theorem visible_cons {c : Char} {s : List Char} : Visible (c :: s) ↔ 32 ≤ c.toNat ∧ Visible s :=
  List.forall_mem_cons

theorem visible_singleton {c : Char} (visible : 32 ≤ c.toNat) : Visible [c] :=
  visible_cons.mpr ⟨visible, by simp [Visible]⟩

theorem visible_escaped (c : Char) : Visible (escaped c) := by
  have short (d : Char) (visible : 32 ≤ d.toNat) : Visible ['\\', d] :=
    visible_cons.mpr ⟨by decide, visible_singleton visible⟩
  unfold escaped
  iterate 7
    split
    · exact short _ (by decide)
  split
  case isTrue control =>
    exact visible_cons.mpr
      ⟨by decide, visible_cons.mpr ⟨by decide, visible_hexUnit ⟨c.toNat, control⟩⟩⟩
  case isFalse visible => exact visible_singleton (by omega)

theorem visible_writeText (s : String) : Visible (writeText s) := by
  rw [writeText, List.cons_append, visible_cons, visible_append]
  refine ⟨by decide, fun d member => ?_, visible_singleton (by decide)⟩
  obtain ⟨c, -, inside⟩ := List.mem_flatMap.mp member
  exact visible_escaped c d inside

theorem visible_array {vs : List Json} (each : ∀ v ∈ vs, Visible (write v)) :
    Visible (write (.array vs)) := by
  rw [write, visible_cons]
  refine ⟨by decide, ?_⟩
  induction vs with
  | nil =>
    rw [writeItems]
    exact visible_singleton (by decide)
  | cons v vs ih =>
    have first := each v List.mem_cons_self
    have next := ih fun u member => each u (List.mem_cons_of_mem v member)
    cases vs with
    | nil =>
      rw [writeItems, visible_append]
      exact ⟨first, visible_singleton (by decide)⟩
    | cons u us =>
      rw [writeItems, visible_append, visible_cons]
      · exact ⟨first, by decide, next⟩
      · simp

theorem visible_object {fs : List (String × Json)} (each : ∀ f ∈ fs, Visible (write f.2)) :
    Visible (write (.object fs)) := by
  rw [write, visible_cons]
  refine ⟨by decide, ?_⟩
  induction fs with
  | nil =>
    rw [writeFields]
    exact visible_singleton (by decide)
  | cons f fs ih =>
    obtain ⟨name, v⟩ := f
    have first : Visible (write v) := each _ List.mem_cons_self
    have next := ih fun g member => each g (List.mem_cons_of_mem _ member)
    have named := visible_writeText name
    cases fs with
    | nil =>
      rw [writeFields, visible_append, visible_append, visible_cons]
      exact ⟨⟨named, by decide, first⟩, visible_singleton (by decide)⟩
    | cons g gs =>
      rw [writeFields, visible_append, visible_append, visible_cons, visible_cons]
      · exact ⟨⟨named, by decide, first⟩, by decide, next⟩
      · simp

end FeedSieve.Text.Json
