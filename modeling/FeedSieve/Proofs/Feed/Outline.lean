import FeedSieve.Proofs.Feed.Document

/-!
# Which components of a document count as events

An outline is a component with an identifier and the components inside it, nested to any depth. A document
written from outlines, line by line, is read back as the same tree (`readComponents_document`). Its events
are the events directly inside its outermost calendars, in the order of the document; without an outermost
calendar it is no feed (`sourceEvents_document`).
-/
namespace FeedSieve.Feed

open ICalendar

inductive Kind where
  | calendar | event | todo | journal | freeBusy | alarm
  deriving DecidableEq, Repr

def Kind.name : Kind → String
  | .calendar => "VCALENDAR"
  | .event => "VEVENT"
  | .todo => "VTODO"
  | .journal => "VJOURNAL"
  | .freeBusy => "VFREEBUSY"
  | .alarm => "VALARM"

/-- An identifier of letters and digits, of any script. -/
structure Label where
  text : String
  alphanumeric : ∀ c ∈ text.toList, Text.Class.isAlphanumeric c = true

/-- A component with an identifier and the components inside it. -/
inductive Outline where
  | node (kind : Kind) (label : Label) (inside : List Outline)

namespace Outline

def kind : Outline → Kind
  | node kind _ _ => kind

def inside : Outline → List Outline
  | node _ _ inside => inside

mutual

def fields : Outline → List (String × String)
  | node kind label inside =>
    ("BEGIN", kind.name) :: ("UID", label.text) :: (fieldsOf inside ++ [("END", kind.name)])

def fieldsOf : List Outline → List (String × String)
  | [] => []
  | o :: rest => o.fields ++ fieldsOf rest

end

mutual

def component : Outline → Component
  | node kind label inside => ⟨kind.name, [.plain "UID" label.text], componentsOf inside⟩

def componentsOf : List Outline → List Component
  | [] => []
  | o :: rest => o.component :: componentsOf rest

end

/-- The text of outlines, written whole with one kind of line end. -/
def document (e : LineEnd) (os : List Outline) : String :=
  String.ofList (whole e ((fieldsOf os).map Progress.namedLine))

/-- The events directly inside outermost calendars. -/
def directEvents (os : List Outline) : List Outline :=
  (os.filter (·.kind == .calendar)).flatMap fun o => o.inside.filter (·.kind == .event)

/-! ## Names and identifiers -/

theorem componentsOf_eq_map (os : List Outline) : componentsOf os = os.map component := by
  induction os with
  | nil => rfl
  | cons o rest ih => rw [componentsOf, ih, List.map_cons]

theorem name_component (o : Outline) : o.component.name = o.kind.name := by
  cases o
  rfl

theorem children_component (o : Outline) : o.component.children = o.inside.map component := by
  cases o with
  | node kind label inside => exact componentsOf_eq_map inside

theorem name_beq (k l : Kind) : (k.name == l.name) = (k == l) := by
  cases k <;> cases l <;> rfl

theorem capital_name (k : Kind) : Capital k.name.toList := by
  cases k <;> decide

theorem plain_name (k : Kind) : k.name ≠ "VTIMEZONE" ∧ '\\' ∉ k.name.toList ∧ '\n' ∉ k.name.toList
    ∧ '\r' ∉ k.name.toList := by
  cases k <;> decide

/-- Other characters than letters and digits do not stand in an identifier. -/
theorem not_mem_label (l : Label) {c : Char} (h : Text.Class.isAlphanumeric c = false) :
    c ∉ l.text.toList := by
  intro member
  rw [l.alphanumeric c member] at h
  cases h

/-! ## Lines -/

mutual

theorem plain_fields (o : Outline) : ∀ l ∈ o.fields, Plain l := by
  cases o with
  | node kind label inside =>
    obtain ⟨-, -, feed, carriage⟩ := plain_name kind
    have labelFeed := not_mem_label label (c := '\n') (by decide +kernel)
    have labelCarriage := not_mem_label label (c := '\r') (by decide +kernel)
    intro l member
    simp only [fields, List.mem_cons, List.mem_append, List.not_mem_nil, or_false] at member
    rcases member with rfl | rfl | inner | rfl
    · exact ⟨(by decide : Capital "BEGIN".toList), feed, carriage⟩
    · exact ⟨(by decide : Capital "UID".toList), labelFeed, labelCarriage⟩
    · exact plain_fieldsOf inside l inner
    · exact ⟨(by decide : Capital "END".toList), feed, carriage⟩

theorem plain_fieldsOf (os : List Outline) : ∀ l ∈ fieldsOf os, Plain l := by
  cases os with
  | nil => simp [fieldsOf]
  | cons o rest =>
    intro l member
    rcases List.mem_append.mp member with first | later
    · exact plain_fields o l first
    · exact plain_fieldsOf rest l later

end

theorem lines_document (e : LineEnd) (os : List Outline) :
    lines (dropMark (document e os).toList) = (fieldsOf os).map Progress.namedLine := by
  have bare : ∀ line ∈ (fieldsOf os).map Progress.namedLine, Bare line := by
    intro line member
    obtain ⟨l, inside, rfl⟩ := List.mem_map.mp member
    exact bare_namedLine (plain_fieldsOf os l inside)
  have unmarked : (document e os).toList.head? ≠ some byteOrderMark := by
    rw [document, String.toList_ofList]
    cases os with
    | nil => simp [fieldsOf, whole]
    | cons o rest =>
      cases o
      simp [fieldsOf, fields, whole, Progress.namedLine, byteOrderMark]
  rw [dropMark_of_unmarked unmarked, document, String.toList_ofList, lines_whole e bare]

/-! ## Reading -/

theorem run_uid [ZoneMaker] (label : Label) (c : Component) (outer closed : List Component) (zones : Registry)
    (more : List (List Char)) :
    Progress.run ⟨c :: outer, closed, zones⟩ (Progress.namedLine ("UID", label.text) :: more)
      = Progress.run ⟨c.addProperty (.plain "UID" label.text) :: outer, closed, zones⟩ more := by
  have unescaped := not_mem_label label (c := '\\') (by decide +kernel)
  apply Progress.run_cons
  rw [Progress.step_namedLine _ (by decide : Capital "UID".toList), Progress.field,
    unescape_of_not_mem unescaped, String.ofList_toList,
    Progress.readLine_property _ (by decide : "UID" ≠ "BEGIN") (by decide)]
  exact Progress.addProperty_read rfl (ofLine_plain zones rfl _)

mutual

/-- The lines of an outline open its component, fill it and close it, whatever is open around it and
whatever follows. -/
theorem run_fields [ZoneMaker] (o : Outline) (s : Progress) (more : List (List Char)) :
    s.run (o.fields.map Progress.namedLine ++ more) = (s.receive o.component).run more := by
  cases o with
  | node kind label inside =>
    obtain ⟨zoneless, unescaped, -, -⟩ := plain_name kind
    simp only [fields, List.map_cons, List.map_append, List.map_nil, List.cons_append,
      List.append_assoc, List.nil_append]
    rw [Progress.run_opens (capital_name kind) unescaped, run_uid, run_within,
      Progress.run_closes zoneless unescaped]
    rfl

/-- The components of outlines are put into the innermost component, in order. -/
theorem run_within [ZoneMaker] (os : List Outline) (c : Component) (outer closed : List Component)
    (zones : Registry) (more : List (List Char)) :
    Progress.run ⟨c :: outer, closed, zones⟩ ((fieldsOf os).map Progress.namedLine ++ more)
      = Progress.run ⟨{ c with children := c.children ++ componentsOf os } :: outer, closed, zones⟩
          more := by
  cases os with
  | nil =>
    cases c
    simp [fieldsOf, componentsOf]
  | cons o rest =>
    rw [fieldsOf, List.map_append, List.append_assoc, run_fields o]
    change Progress.run ⟨c.addChild o.component :: outer, closed, zones⟩ _ = _
    rw [run_within rest]
    simp [Component.addChild, componentsOf]

end

/-- Outlines outside all components become the outermost components. -/
theorem run_outermost [ZoneMaker] (os : List Outline) (closed : List Component) (zones : Registry) :
    Progress.run ⟨[], closed, zones⟩ ((fieldsOf os).map Progress.namedLine)
      = (zones, .ok (closed ++ os.map component)) := by
  induction os generalizing closed with
  | nil => simp [fieldsOf, Progress.run]
  | cons o rest ih =>
    rw [fieldsOf, List.map_append, run_fields o]
    change Progress.run ⟨[], closed ++ [o.component], zones⟩ _ = _
    rw [ih]
    simp

/-- No outline defines a zone. -/
theorem definesLate_component (os : List Outline) : definesLate (os.map component) = false := by
  rw [definesLate, List.any_eq_false]
  intro c member
  have inner := (List.dropWhile_sublist _).subset member
  obtain ⟨parent, outermost, child⟩ := List.mem_flatMap.mp inner
  obtain ⟨o, -, rfl⟩ := List.mem_map.mp outermost
  rw [children_component] at child
  obtain ⟨p, -, rfl⟩ := List.mem_map.mp child
  simpa [name_component] using (plain_name p.kind).1

/-- A document of outlines is read as their components. -/
theorem readComponents_document [ZoneMaker] (zones : Registry) (e : LineEnd) (os : List Outline) :
    readComponents zones (dropMark (document e os).toList) = (zones, .ok (os.map component)) := by
  rw [readComponents, lines_document, run_outermost, List.nil_append]
  simp [definesLate_component]

/-! ## Events -/

theorem filter_component (k : Kind) (os : List Outline) :
    (os.map component).filter (·.name == k.name) = (os.filter (·.kind == k)).map component := by
  rw [List.filter_map]
  congr 2
  funext o
  rw [Function.comp_apply, name_component, name_beq]

theorem sourceEvents_component (os : List Outline) :
    sourceEvents (os.map component)
      = (os.flatMap fun o => o.inside.filter (·.kind == .event)).map component := by
  rw [sourceEvents, List.flatMap_map, List.map_flatMap]
  congr 1
  funext o
  rw [children_component]
  exact filter_component .event o.inside

/-- Reading a document of outlines gives the events directly inside its outermost calendars, each once
and in the order of the document. It fails exactly if there is no outermost calendar. -/
theorem sourceEvents_document [ZoneMaker] (zones : Registry) (e : LineEnd) (os : List Outline) :
    (parseCalendars zones (document e os)).2.map sourceEvents
      = if os.any (·.kind == .calendar) then .ok ((directEvents os).map component)
        else .error .noCalendar := by
  have filtered : (os.map component).filter (·.name == "VCALENDAR")
      = (os.filter (·.kind == .calendar)).map component := filter_component .calendar os
  rw [parseCalendars, readComponents_document]
  dsimp only
  rw [filtered]
  cases calendars : os.filter (·.kind == .calendar) with
  | nil =>
    have absent : os.any (·.kind == .calendar) = false := by
      rw [List.any_eq_false]
      exact List.filter_eq_nil_iff.mp calendars
    rw [if_neg (by simp [absent])]
    rfl
  | cons o rest =>
    have present : os.any (·.kind == .calendar) = true := by
      have member : o ∈ os.filter (·.kind == .calendar) := by simp [calendars]
      obtain ⟨outermost, isCalendar⟩ := List.mem_filter.mp member
      exact List.any_eq_true.mpr ⟨o, outermost, isCalendar⟩
    rw [if_pos present, directEvents, calendars, ← sourceEvents_component]
    rfl

end Outline

end FeedSieve.Feed
