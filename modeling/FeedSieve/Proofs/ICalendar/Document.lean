import FeedSieve.ICalendar.Document
import FeedSieve.Proofs.ICalendar.ContentLine
import FeedSieve.Proofs.ICalendar.Lines
import FeedSieve.Proofs.Traced

/-!
# What a line does to a document

`Progress.Change` lists what reading one line may do; a property of all properties that lines give is a
property of all components that are read (`every_readComponents`). The lines without parameters are
followed one by one: they open and close components and add properties.
-/
namespace FeedSieve.ICalendar

/-- All properties of a component and of the components inside it have the property. -/
inductive Component.Every (P : Property → Prop) : Component → Prop where
  | mk (c : Component) (properties : ∀ p ∈ c.properties, P p)
      (children : ∀ d ∈ c.children, Component.Every P d) : Component.Every P c

namespace Component

variable {P : Property → Prop}

theorem Every.properties {c : Component} (h : c.Every P) : ∀ p ∈ c.properties, P p := by
  cases h with
  | mk _ properties _ => exact properties

theorem Every.children {c : Component} (h : c.Every P) : ∀ d ∈ c.children, d.Every P := by
  cases h with
  | mk _ _ children => exact children

theorem Every.first? {c : Component} (h : c.Every P) {name : String} {p : Property}
    (found : c.first? name = some p) : P p :=
  h.properties p (List.mem_of_find?_eq_some found)

theorem every_empty (name : String) : Component.Every P ⟨name, [], []⟩ :=
  .mk _ (by simp) (by simp)

theorem Every.addProperty {c : Component} (h : c.Every P) {p : Property} (added : P p) :
    (c.addProperty p).Every P := by
  refine .mk _ ?_ h.children
  intro q member
  rcases List.mem_append.mp member with before | last
  · exact h.properties q before
  · rw [List.mem_singleton.mp last]
    exact added

theorem Every.addChild {c child : Component} (h : c.Every P) (added : child.Every P) :
    (c.addChild child).Every P := by
  refine .mk _ h.properties ?_
  intro d member
  rcases List.mem_append.mp member with before | last
  · exact h.children d before
  · rw [List.mem_singleton.mp last]
    exact added

end Component

namespace Progress

/-! ## One line -/

section Steps

variable {s s' : Progress}

/-- A property that is added goes to the innermost open component, as it is or as broken. -/
theorem addProperty_cases {l : ContentLine} (h : s.addProperty l = .ok s') :
    s.pending = [] ∧ s' = s ∨ ∃ c rest, s.pending = c :: rest ∧
      s' = { s with pending := c.addProperty (Property.ofLine s.zones l).1 :: rest } := by
  unfold addProperty at h
  split at h
  · rename_i outside
    split at h
    · cases h
      exact .inl ⟨outside, rfl⟩
    · cases h
  · rename_i c rest innermost
    refine .inr ⟨c, rest, innermost, ?_⟩
    dsimp only at h
    split at h
    · cases h
      rfl
    · split at h
      · cases h
        rfl
      · split at h
        · cases h
          rfl
        · cases h

/-- A closed component was the innermost open one. It goes to its parent or to the results. -/
theorem close_cases {c : Component} (h : s.close = .ok (s', c)) :
    (s.pending = [c] ∧ s' = { s with pending := [], closed := s.closed ++ [c] }) ∨
    (∃ parent rest, s.pending = c :: parent :: rest ∧
      s' = { s with pending := parent.addChild c :: rest }) := by
  unfold close at h
  split at h
  · cases h
  · rename_i d alone
    cases h
    exact .inl ⟨alone, rfl⟩
  · rename_i d parent rest nested
    cases h
    exact .inr ⟨parent, rest, nested, rfl⟩

variable [ZoneMaker]

def readLine (s : Progress) (l : ContentLine) : Except DocumentError Progress :=
  if l.name = "BEGIN" then
    .ok { s with pending := ⟨Text.Case.upper l.value, [], []⟩ :: s.pending }
  else if l.name = "END" then
    s.close >>= fun closed => if l.value = "VTIMEZONE" then closed.1.define closed.2 else .ok closed.1
  else s.addProperty l

theorem step_of_parse {line : List Char} {l : ContentLine} (h : ContentLine.parse line = .ok l)
    (s : Progress) : s.step line = s.readLine l := by
  rw [step, h]
  rfl

/-- What reading a line may do, if the line can be read or is forgiven. -/
inductive Change (s : Progress) : Progress → Prop where
  | passed : Change s s
  | opened (name : String) : Change s { s with pending := ⟨name, [], []⟩ :: s.pending }
  | closed (s' : Progress) (c : Component) (closes : s.close = .ok (s', c)) : Change s s'
  | defined (s' s'' : Progress) (c : Component) (closes : s.close = .ok (s', c))
      (defines : s'.define c = .ok s'') : Change s s''
  | added (c : Component) (rest : List Component) (l : ContentLine)
      (innermost : s.pending = c :: rest) :
      Change s { s with pending := c.addProperty (Property.ofLine s.zones l).1 :: rest }

theorem addProperty_change {l : ContentLine} (h : s.addProperty l = .ok s') :
    Change s s' := by
  rcases addProperty_cases h with ⟨-, rfl⟩ | ⟨c, rest, innermost, rfl⟩
  · exact .passed
  · exact .added c rest l innermost

theorem readLine_change {l : ContentLine} (h : s.readLine l = .ok s') :
    Change s s' := by
  unfold readLine at h
  split at h
  · cases h
    exact .opened _
  · split at h
    · obtain ⟨⟨s₁, c⟩, closes, h⟩ := Traced.bind_eq_ok_iff.mp h
      split at h
      · exact .defined s₁ s' c closes h
      · cases h
        exact .closed _ c closes
    · exact addProperty_change h

theorem step_change {line : List Char} (h : s.step line = .ok s') :
    Change s s' := by
  cases read : ContentLine.parse line with
  | ok l =>
    rw [step_of_parse read] at h
    exact readLine_change h
  | error e =>
    rw [step, read] at h
    dsimp only at h
    split at h
    · cases h
      exact .passed
    · cases h

/-- A component that is taken note of changes nothing, or it is a zone that was not known. -/
theorem define_cases {c : Component} (h : s.define c = .ok s') :
    s' = s ∨ ∃ id zone, c.identifiers = [id] ∧ (s.zones.named? (bareIdentifier id.text)).isSome = false ∧
      c.name = "VTIMEZONE" ∧ c.zone = .ok zone ∧
      s' = { s with zones := s.zones.define id.text zone } := by
  unfold define at h
  split at h
  · cases h
    exact .inl rfl
  · rename_i id only
    split at h
    · cases h
      exact .inl rfl
    · rename_i unknown
      split at h
      · cases h
      · rename_i named
        obtain ⟨zone, made, h⟩ := Traced.bind_eq_ok_iff.mp h
        cases h
        exact .inr ⟨id, zone, only, Bool.eq_false_iff.mpr unknown, Decidable.not_not.mp named, made, rfl⟩
  · cases h

/-- Taking note of a zone changes nothing but the zones. -/
theorem define_frame {c : Component} (h : s.define c = .ok s') :
    s' = { s with zones := s'.zones } := by
  rcases define_cases h with rfl | ⟨id, zone, -, -, -, -, rfl⟩ <;> rfl

end Steps

/-! ## A property of all components -/

/-- All components, open or closed, have only properties with the property. -/
structure Every (P : Property → Prop) (s : Progress) : Prop where
  pending : ∀ c ∈ s.pending, c.Every P
  closed : ∀ c ∈ s.closed, c.Every P

theorem every_close {P : Property → Prop} {s s' : Progress} {c : Component} (inv : s.Every P)
    (h : s.close = .ok (s', c)) : s'.Every P := by
  rcases close_cases h with ⟨alone, rfl⟩ | ⟨parent, rest, nested, rfl⟩
  · refine ⟨by simp, ?_⟩
    intro d member
    rcases List.mem_append.mp member with before | last
    · exact inv.closed d before
    · rw [List.mem_singleton.mp last]
      exact inv.pending c (by simp [alone])
  · refine ⟨?_, inv.closed⟩
    have child := inv.pending c (by simp [nested])
    intro d member
    rcases List.mem_cons.mp member with rfl | outer
    · exact (inv.pending parent (by simp [nested])).addChild child
    · exact inv.pending d (by simp [nested, outer])

variable [ZoneMaker]

theorem every_change {P : Property → Prop} (all : ∀ r l, P (Property.ofLine r l).1) {s s' : Progress}
    (inv : s.Every P) (h : Change s s') : s'.Every P := by
  cases h with
  | passed => exact inv
  | opened name =>
    refine ⟨?_, inv.closed⟩
    intro c member
    rcases List.mem_cons.mp member with rfl | outer
    · exact Component.every_empty name
    · exact inv.pending c outer
  | closed _ c closes => exact every_close inv closes
  | defined s₁ _ c closes defines =>
    rw [define_frame defines]
    exact ⟨(every_close inv closes).pending, (every_close inv closes).closed⟩
  | added c rest l innermost =>
    refine ⟨?_, inv.closed⟩
    intro d member
    rcases List.mem_cons.mp member with rfl | outer
    · exact (inv.pending c (by simp [innermost])).addProperty (all _ l)
    · exact inv.pending d (by simp [innermost, outer])

theorem every_run {P : Property → Prop} (all : ∀ r l, P (Property.ofLine r l).1) {s : Progress}
    (inv : s.Every P) {ls : List (List Char)} {cs : List Component} (h : (run s ls).2 = .ok cs) :
    ∀ c ∈ cs, c.Every P := by
  induction ls generalizing s with
  | nil =>
    cases h
    exact inv.closed
  | cons line rest ih =>
    unfold run at h
    split at h
    · rename_i s' stepped
      exact ih (every_change all inv (step_change stepped)) h
    · cases h

end Progress

/-- What holds of every property that a line gives holds throughout the components that are read. -/
theorem every_readComponents [ZoneMaker] {P : Property → Prop} (all : ∀ r l, P (Property.ofLine r l).1)
    {zones : Registry} {text : List Char} {cs : List Component}
    (h : (readComponents zones text).2 = .ok cs) : ∀ c ∈ cs, c.Every P := by
  -- Both readings start without components, so that the invariant serves the second as well.
  have inv : ∀ r : Registry, Progress.Every P ⟨[], [], r⟩ := fun r => ⟨by simp, by simp⟩
  unfold readComponents at h
  dsimp only at h
  split at h
  · rename_i r first ran
    split at h
    · exact Progress.every_run all (inv r) h
    · cases h
      exact Progress.every_run all (inv zones) (congrArg Prod.snd ran)
  · rename_i failed unread
    cases outcome : (Progress.run ⟨[], [], zones⟩ (lines text)) with
    | mk r result =>
      cases result with
      | ok first => exact absurd outcome (unread r first)
      | error e =>
        rw [outcome] at h
        cases h

/-! ## Lines without parameters -/

theorem zoneNameOf_named (name value : String) : zoneNameOf (.named name value) = .none := rfl

theorem settingOf_named (r : Registry) (name value : String) :
    settingOf r (.named name value) = .unset := by
  unfold settingOf
  rw [zoneNameOf_named]
  split <;> rfl

theorem ofLine_named (name value : String) :
    Form.ofLine (.named name value) = Form.ofName name := rfl

def Property.plain (name text : String) : Property := ⟨name, text, .plain⟩

/-- The property of a date without a named zone. -/
def Property.dated (name text : String) (d : Datum) : Property :=
  ⟨name, text, .dated (some d) (some d) .none⟩

theorem ofLine_plain (r : Registry) {name : String} (form : Form.ofName name = .text) (value : String) :
    Property.ofLine r (.named name value) = (.plain name value, none) := by
  rw [Property.ofLine, readContent, ofLine_named, form]
  rfl

theorem ofLine_dated (r : Registry) {name value : String} {d : Datum}
    (form : Form.ofName name = .date) (read : readDatum .unset value.toList = .ok d) :
    Property.ofLine r (.named name value) = (.dated name value d, none) := by
  have value' : (ContentLine.named name value).value = value := rfl
  rw [Property.ofLine, readContent, ofLine_named, form, settingOf_named, value', read]
  rfl

namespace Progress

theorem addProperty_read {s : Progress} {c : Component} {rest : List Component} {l : ContentLine}
    {p : Property} (innermost : s.pending = c :: rest) (read : Property.ofLine s.zones l = (p, none)) :
    s.addProperty l = .ok { s with pending := c.addProperty p :: rest } := by
  unfold addProperty
  rw [innermost, read]

/-- A closed component goes to its parent, or to the results. -/
def receive (s : Progress) (c : Component) : Progress :=
  match s.pending with
  | [] => { s with closed := s.closed ++ [c] }
  | parent :: outer => { s with pending := parent.addChild c :: outer }

theorem close_pending (c : Component) (outer closed : List Component) (zones : Registry) :
    close ⟨c :: outer, closed, zones⟩ = .ok (receive ⟨outer, closed, zones⟩ c, c) := by
  cases outer <;> rfl

variable [ZoneMaker]

/-- A line of a name in capital letters and a value is read as these. -/
theorem step_named (s : Progress) {name : List Char} (capital : Capital name) (value : List Char) :
    s.step (name ++ ':' :: value)
      = s.readLine (.named (String.ofList name) (String.ofList (unescape value))) :=
  step_of_parse (ContentLine.parse_named capital value) s

/-- A line that opens or closes nothing adds a property. -/
theorem readLine_property (s : Progress) {name : String} (opens : name ≠ "BEGIN")
    (closes : name ≠ "END") (value : String) :
    s.readLine (.named name value) = s.addProperty (.named name value) := by
  change (if name = "BEGIN" then _ else if name = "END" then _ else _) = _
  rw [if_neg opens, if_neg closes]

theorem run_cons {s s' : Progress} {line : List Char} (h : s.step line = .ok s')
    (rest : List (List Char)) : s.run (line :: rest) = s'.run rest := by
  rw [run, h]

def readLines (s : Progress) : List ContentLine → Except DocumentError Progress
  | [] => .ok s
  | l :: rest => s.readLine l >>= fun s' => s'.readLines rest

def namedLine (l : String × String) : List Char := l.1.toList ++ ':' :: l.2.toList

/-- What the line of a name and the text of a value is read as. -/
def field (l : String × String) : ContentLine := .named l.1 (String.ofList (unescape l.2.toList))

theorem step_namedLine (s : Progress) {l : String × String} (capital : Capital l.1.toList) :
    s.step (namedLine l) = s.readLine (field l) := by
  rw [namedLine, step_named s capital, String.ofList_toList, field]

/-- A line that begins a component opens it inside the innermost one. -/
theorem run_opens {name : String} (capital : Capital name.toList) (unescaped : '\\' ∉ name.toList)
    (s : Progress) (more : List (List Char)) :
    s.run (namedLine ("BEGIN", name) :: more)
      = run { s with pending := ⟨name, [], []⟩ :: s.pending } more := by
  have upper := upper_capital capital
  rw [String.ofList_toList] at upper
  apply run_cons
  rw [step_namedLine s (by decide : Capital "BEGIN".toList), field,
    unescape_of_not_mem unescaped, String.ofList_toList]
  change Except.ok { s with pending := ⟨Text.Case.upper name, [], []⟩ :: s.pending } = _
  rw [upper]

/-- A line that ends something else than a zone closes the innermost component. -/
theorem run_closes {name : String} (zoneless : name ≠ "VTIMEZONE") (unescaped : '\\' ∉ name.toList)
    (c : Component) (outer closed : List Component) (zones : Registry) (more : List (List Char)) :
    run ⟨c :: outer, closed, zones⟩ (namedLine ("END", name) :: more)
      = run (receive ⟨outer, closed, zones⟩ c) more := by
  apply run_cons
  rw [step_namedLine _ (by decide : Capital "END".toList), field, unescape_of_not_mem unescaped,
    String.ofList_toList]
  change (close ⟨c :: outer, closed, zones⟩ >>= fun closed =>
    if name = "VTIMEZONE" then closed.1.define closed.2 else .ok closed.1) = _
  rw [close_pending, Traced.ok_bind, if_neg zoneless]

/-- Lines with names in capital letters are read as what they show, whatever follows them. -/
theorem run_named {s s' : Progress} {ls : List (String × String)}
    (capital : ∀ l ∈ ls, Capital l.1.toList) (h : s.readLines (ls.map field) = .ok s')
    (rest : List (List Char)) : s.run (ls.map namedLine ++ rest) = s'.run rest := by
  induction ls generalizing s with
  | nil =>
    cases h
    rfl
  | cons l more ih =>
    have others : ∀ l' ∈ more, Capital l'.1.toList := fun l' member =>
      capital l' (List.mem_cons_of_mem l member)
    obtain ⟨s₁, first, later⟩ := Traced.bind_eq_ok_iff.mp h
    have read := step_namedLine s (capital l List.mem_cons_self)
    rw [List.map_cons, List.cons_append, run_cons (read.trans first), ih others later]

/-- A zone that is known already is not defined again. -/
theorem define_known {s : Progress} {c : Component} {id : Property} (named : c.identifiers = [id])
    (known : (s.zones.named? (bareIdentifier id.text)).isSome = true) : s.define c = .ok s := by
  unfold define
  rw [named]
  dsimp only
  rw [if_pos known]

end Progress

/-- A name in capital letters sets a line off from the one before. -/
theorem separable_line {name value : List Char} (capital : Capital name) (unbroken : '\n' ∉ value) :
    Separable (name ++ ':' :: value) := by
  obtain ⟨c, rest, rfl⟩ := List.exists_cons_of_ne_nil capital.nonempty
  have upper : ∀ {d : Char}, d.isUpper = false → d ∉ c :: rest := by
    intro d lower member
    rw [capital.upper d member] at lower
    cases lower
  constructor
  · intro member
    rcases List.mem_append.mp member with inName | behind
    · exact upper (by decide) inName
    · rcases List.mem_cons.mp behind with colon | inValue
      · cases colon
      · exact unbroken inValue
  · refine ⟨c, rest ++ ':' :: value, rfl, ?_, ?_, ?_⟩ <;> rintro rfl <;>
      exact upper (by decide) List.mem_cons_self

theorem bare_line {name value : List Char} (capital : Capital name) (unbroken : '\n' ∉ value)
    (uncarried : '\r' ∉ value) : Bare (name ++ ':' :: value) where
  toSeparable := separable_line capital unbroken
  uncarried member := by
    rcases List.mem_append.mp member with inName | behind
    · exact absurd (capital.upper _ inName) (by decide)
    · rcases List.mem_cons.mp behind with colon | inValue
      · cases colon
      · exact uncarried inValue

theorem separable_namedLines {ls : List (String × String)}
    (plain : ∀ l ∈ ls, Capital l.1.toList ∧ '\n' ∉ l.2.toList) :
    ∀ line ∈ ls.map Progress.namedLine, Separable line := by
  intro line member
  obtain ⟨l, inside, rfl⟩ := List.mem_map.mp member
  obtain ⟨capital, unbroken⟩ := plain l inside
  exact separable_line capital unbroken

/-- A name in capital letters and a value without line feeds and carriage returns. -/
def Plain (l : String × String) : Prop :=
  Capital l.1.toList ∧ '\n' ∉ l.2.toList ∧ '\r' ∉ l.2.toList

instance (l : String × String) : Decidable (Plain l) := inferInstanceAs (Decidable (_ ∧ _ ∧ _))

theorem bare_namedLine {l : String × String} (plain : Plain l) : Bare (Progress.namedLine l) :=
  bare_line plain.1 plain.2.1 plain.2.2

theorem bare_namedLines {ls : List (String × String)} (plain : ∀ l ∈ ls, Plain l) :
    ∀ line ∈ ls.map Progress.namedLine, Bare line := by
  intro line member
  obtain ⟨l, inside, rfl⟩ := List.mem_map.mp member
  exact bare_namedLine (plain l inside)

end FeedSieve.ICalendar
