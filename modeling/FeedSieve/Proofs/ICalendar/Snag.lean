import FeedSieve.Proofs.ICalendar.Ambiguous
import FeedSieve.Proofs.ICalendar.Registry

/-!
# Where reading ends with a fault

A line is a snag where it ends a zone but closes something that no zone can be made of, or where it is ambiguous
and the component around it forgives nothing. Reading a document ends with a fault exactly if it comes upon a snag
(`readComponents_eq_fault_iff`). If a document is read twice this is so in the first reading, because the names
and the identifiers of the open components are told by the lines alone, and a zone that the first reading has
passed is known in the second.
-/
namespace FeedSieve.ICalendar

theorem ofDatum_eq_fault_iff {e : DatumError} {f : Fault} :
    DocumentError.ofDatum e = .fault f ↔ e = .zones ∧ f = severalZones := by
  cases e <;> simp [DocumentError.ofDatum, eq_comm]

theorem ofLine_error_iff {r : Registry} {l : ContentLine} {e : DatumError} :
    (Property.ofLine r l).2 = some e ↔ readContent r l = .error e := by
  unfold Property.ofLine
  cases readContent r l <;> simp

/-- An ambiguous line opens and closes nothing, and no extension is ambiguous. -/
theorem Ambiguous.name {l : ContentLine} (h : Ambiguous l) :
    l.name ≠ "BEGIN" ∧ l.name ≠ "END" ∧ "X-".toList.isPrefixOf l.name.toList = false := by
  have zoned : l.name ∈ zonedNames := by
    cases h with
    | date several => exact several.1
    | dates several => exact several.1
  have names : ∀ name ∈ zonedNames,
      name ≠ "BEGIN" ∧ name ≠ "END" ∧ "X-".toList.isPrefixOf name.toList = false := by decide
  exact names _ zoned

namespace Progress

variable {s s' : Progress} {line : List Char} {f : Fault}

/-! ## Outlines -/

/-- The names and the identifiers of the open components, the innermost first. -/
def outline (s : Progress) : List (String × List Property) := s.pending.map fun c => (c.name, c.identifiers)

/-- What a property makes of the outline: it may be an identifier of the innermost component. -/
def outlineWith (l : ContentLine) : List (String × List Property) → List (String × List Property)
  | [] => []
  | (name, ids) :: outer => (name, if l.name = "TZID" then ids ++ [(Property.ofLine [] l).1] else ids) :: outer

/-- What a line makes of the outline, whichever zones are known. -/
def outlineAfter (line : List Char) (o : List (String × List Property)) : List (String × List Property) :=
  match ContentLine.parse line with
  | .error _ => o
  | .ok l =>
    if l.name = "BEGIN" then (Text.Case.upper l.value, []) :: o
    else if l.name = "END" then o.tail
    else outlineWith l o

/-- A property outside the date properties is read in the same way whichever zones are known. -/
theorem ofLine_congr {l : ContentLine} (unzoned : l.name ∉ zonedNames) (r r' : Registry) :
    Property.ofLine r l = Property.ofLine r' l := by
  have setting (r : Registry) : settingOf r l = .unset := if_neg unzoned
  rw [Property.ofLine, Property.ofLine, readContent, readContent, setting, setting]

theorem name_ofLine (r : Registry) (l : ContentLine) : (Property.ofLine r l).1.name = l.name := by
  unfold Property.ofLine
  split <;> rfl

theorem identifiers_addProperty (r : Registry) (c : Component) (l : ContentLine) :
    (c.addProperty (Property.ofLine r l).1).identifiers
      = if l.name = "TZID" then c.identifiers ++ [(Property.ofLine [] l).1] else c.identifiers := by
  rw [Component.identifiers, Component.addProperty, List.filter_append, ← Component.identifiers]
  by_cases named : l.name = "TZID"
  · have unzoned : l.name ∉ zonedNames := by
      rw [named]
      decide
    rw [if_pos named, ofLine_congr unzoned r [], List.filter_cons_of_pos (by simp [name_ofLine, named])]
    rfl
  · rw [if_neg named, List.filter_cons_of_neg (by simp [name_ofLine, named])]
    exact List.append_nil _

theorem outline_addProperty {l : ContentLine} (h : s.addProperty l = .ok s') :
    s'.outline = outlineWith l s.outline := by
  rcases addProperty_cases h with ⟨outside, rfl⟩ | ⟨c, rest, innermost, rfl⟩
  · simp [outline, outlineWith, outside]
  · simp only [outline, outlineWith, innermost, List.map_cons, identifiers_addProperty]
    rfl

theorem outline_close {c : Component} (h : s.close = .ok (s', c)) : s'.outline = s.outline.tail := by
  rcases close_cases h with ⟨alone, rfl⟩ | ⟨parent, rest, nested, rfl⟩
  · simp [outline, alone]
  · simp [outline, nested, Component.addChild, Component.identifiers]

/-! ## Snags -/

/-- The line ends a zone, whatever it closes. -/
def EndsZone (line : List Char) : Prop :=
  ∃ l, ContentLine.parse line = .ok l ∧ l.name = "END" ∧ l.value = "VTIMEZONE"

/-- No zone can be made of a component, and this is the fault. -/
inductive Unfit [ZoneMaker] (zones : Registry) (c : Component) : Fault → Prop where
  | foreign {id : Property} (only : c.identifiers = [id])
      (unknown : (zones.named? (bareIdentifier id.text)).isSome = false) (other : c.name ≠ "VTIMEZONE") :
      Unfit zones c (.noAttribute c.kind "to_tz")
  | crowded (several : 2 ≤ c.identifiers.length) : Unfit zones c severalZones
  | unmade {id : Property} {f : Fault} (only : c.identifiers = [id])
      (unknown : (zones.named? (bareIdentifier id.text)).isSome = false) (zone : c.name = "VTIMEZONE")
      (observed : c.observances ≠ []) (fails : ZoneMaker.zone c = .error (.fault f)) : Unfit zones c f

/-- The line is one at which reading ends with a fault. -/
inductive Snag [ZoneMaker] (s : Progress) (line : List Char) : Fault → Prop where
  | zone {c : Component} {outer : List Component} {f : Fault} (ends : EndsZone line)
      (innermost : s.pending = c :: outer) (unfit : Unfit s.zones c f) : Snag s line f
  | date {l : ContentLine} {c : Component} {outer : List Component} (read : ContentLine.parse line = .ok l)
      (ambiguous : Ambiguous l) (innermost : s.pending = c :: outer) (strict : c.name ≠ "VEVENT") :
      Snag s line severalZones

theorem addProperty_eq_fault_iff (s : Progress) (l : ContentLine) (f : Fault) :
    s.addProperty l = .error (.fault f) ↔
      Ambiguous l ∧ (∃ c outer, s.pending = c :: outer ∧ c.name ≠ "VEVENT") ∧ f = severalZones := by
  constructor
  · intro h
    unfold addProperty at h
    split at h
    · split at h <;> cases h
    · rename_i c outer innermost
      rcases found : Property.ofLine s.zones l with ⟨p, defect⟩
      rw [found] at h
      dsimp only at h
      split at h
      · cases h
      · rename_i e
        split at h
        · cases h
        · rename_i strict
          split at h
          · cases h
          · obtain ⟨rfl, rfl⟩ := ofDatum_eq_fault_iff.mp (Except.error.inj h)
            have wrong := ofLine_error_iff.mp (congrArg Prod.snd found)
            refine ⟨(readContent_eq_zones_iff _ _).mp wrong, ⟨c, outer, innermost, ?_⟩, rfl⟩
            simpa [forgives, innermost] using strict
  · rintro ⟨ambiguous, ⟨c, outer, innermost, strict⟩, rfl⟩
    have defect : (Property.ofLine s.zones l).2 = some .zones :=
      ofLine_error_iff.mpr ((readContent_eq_zones_iff _ _).mpr ambiguous)
    have unforgiven : s.forgives = false := by simp [forgives, innermost, strict]
    unfold addProperty
    rw [innermost]
    dsimp only
    rw [defect, unforgiven, ambiguous.name.2.2]
    rfl

theorem zones_receive (s : Progress) (c : Component) : (s.receive c).zones = s.zones := by
  unfold receive
  split <;> rfl

theorem ofDefect_eq_fault_iff {e : ZoneDefect} {f : Fault} :
    DocumentError.ofDefect e = .fault f ↔ e = .fault f := by
  cases e <;> simp [DocumentError.ofDefect]

/-- Only what makes zones of observances fails over a definition. -/
theorem zone_eq_fault_iff [ZoneMaker] (c : Component) (f : Fault) :
    c.zone = .error (.fault f) ↔ c.observances ≠ [] ∧ ZoneMaker.zone c = .error (.fault f) := by
  unfold Component.zone
  split
  · rename_i hollow
    simp [hollow]
  · rename_i observed
    rw [and_iff_right observed]
    cases ZoneMaker.zone c with
    | ok zone => simp [Except.mapError]
    | error e => simp [Except.mapError, ofDefect_eq_fault_iff]

variable [ZoneMaker]

theorem define_eq_fault_iff (s : Progress) (c : Component) (f : Fault) :
    s.define c = .error (.fault f) ↔ Unfit s.zones c f := by
  constructor
  · intro h
    unfold define at h
    split at h
    · cases h
    · rename_i id only
      split at h
      · cases h
      · rename_i unknown
        have unknown := Bool.eq_false_iff.mpr unknown
        split at h
        · rename_i other
          cases h
          exact .foreign only unknown other
        · rename_i zone
          rcases Traced.bind_eq_error_iff.mp h with fails | ⟨zone, -, h⟩
          · obtain ⟨observed, fails⟩ := (zone_eq_fault_iff c f).mp fails
            exact .unmade only unknown (not_not.mp zone) observed fails
          · cases h
    · rename_i none one
      cases h
      refine .crowded ?_
      match same : c.identifiers with
      | [] => exact absurd same none
      | [id] => exact absurd same (one id)
      | _ :: _ :: _ => simp
  · intro unfit
    cases unfit with
    | foreign only unknown other =>
      unfold define
      rw [only]
      dsimp only
      rw [unknown, if_neg (by decide), if_pos other]
    | crowded several =>
      unfold define
      match same : c.identifiers with
      | [] => simp [same] at several
      | [id] => simp [same] at several
      | _ :: _ :: _ => rfl
    | unmade only unknown zone observed fails =>
      exact define_unmade only unknown zone ((zone_eq_fault_iff c f).mpr ⟨observed, fails⟩)

/-- A line that ends something fails with a fault exactly if it ends a zone and closes what is unfit for one. -/
theorem close_eq_fault_iff (s : Progress) (l : ContentLine) (f : Fault) :
    (s.close >>= fun closed => if l.value = "VTIMEZONE" then closed.1.define closed.2 else .ok closed.1)
        = .error (.fault f)
      ↔ l.value = "VTIMEZONE" ∧ ∃ c outer, s.pending = c :: outer ∧ Unfit s.zones c f := by
  obtain ⟨pending, closed, zones⟩ := s
  cases pending with
  | nil =>
    rw [Traced.bind_eq_error_iff]
    simp [close]
  | cons c outer =>
    rw [close_pending, Traced.ok_bind]
    by_cases zone : l.value = "VTIMEZONE"
    · rw [if_pos zone, define_eq_fault_iff, zones_receive]
      simp [zone]
    · simp [zone]

theorem step_eq_fault_iff : s.step line = .error (.fault f) ↔ Snag s line f := by
  constructor
  · intro h
    cases read : ContentLine.parse line with
    | error e =>
      rw [step, read] at h
      dsimp only at h
      split at h <;> cases h
    | ok l =>
      rw [step_of_parse read, readLine] at h
      split at h
      · cases h
      · split at h
        · rename_i ends
          obtain ⟨zone, c, outer, innermost, unfit⟩ := (close_eq_fault_iff s l f).mp h
          exact .zone ⟨l, read, ends, zone⟩ innermost unfit
        · obtain ⟨ambiguous, ⟨c, outer, innermost, strict⟩, rfl⟩ := (addProperty_eq_fault_iff s l f).mp h
          exact .date read ambiguous innermost strict
  · intro snag
    cases snag with
    | zone ends innermost unfit =>
      obtain ⟨l, read, named, zone⟩ := ends
      rw [step_of_parse read, readLine, if_neg (by simp [named]), if_pos named, close_eq_fault_iff]
      exact ⟨zone, _, _, innermost, unfit⟩
    | date read ambiguous innermost strict =>
      obtain ⟨opens, closes, -⟩ := ambiguous.name
      rw [step_of_parse read, readLine, if_neg opens, if_neg closes, addProperty_eq_fault_iff]
      exact ⟨ambiguous, ⟨_, _, innermost, strict⟩, rfl⟩

/-- Reading lines comes upon a snag. -/
inductive Stuck : Progress → List (List Char) → Fault → Prop where
  | here {s : Progress} {line : List Char} {f : Fault} (snag : Snag s line f) (rest : List (List Char)) :
      Stuck s (line :: rest) f
  | later {s s' : Progress} {line : List Char} {rest : List (List Char)} {f : Fault}
      (reads : s.step line = .ok s') (stuck : Stuck s' rest f) : Stuck s (line :: rest) f

/-- Reading lines ends with a fault exactly if it comes upon a snag. -/
theorem run_eq_fault_iff {ls : List (List Char)} : (s.run ls).2 = .error (.fault f) ↔ Stuck s ls f := by
  induction ls generalizing s with
  | nil =>
    constructor
    · intro h
      cases h
    · intro stuck
      cases stuck
  | cons line rest ih =>
    rw [run]
    constructor
    · intro h
      cases stepped : s.step line with
      | ok s' =>
        rw [stepped] at h
        exact .later stepped (ih.mp h)
      | error e =>
        rw [stepped] at h
        cases h
        exact .here (step_eq_fault_iff.mp stepped) rest
    · intro stuck
      cases stuck with
      | here snag => rw [step_eq_fault_iff.mpr snag]
      | later reads stuck =>
        rw [reads]
        exact ih.mpr stuck

/-! ## The second reading -/

theorem outline_step (h : s.step line = .ok s') : s'.outline = outlineAfter line s.outline := by
  unfold outlineAfter
  -- The outline leaves out what depends on zones: only names and identifiers are followed here.
  cases read : ContentLine.parse line with
  | error e =>
    rw [step, read] at h
    dsimp only at h
    split at h <;> cases h
    rfl
  | ok l =>
    rw [step_of_parse read, readLine] at h
    dsimp only
    split at h
    · rename_i opens
      rw [if_pos opens]
      cases h
      rfl
    · rename_i opens
      rw [if_neg opens]
      split at h
      · rename_i closes
        rw [if_pos closes]
        obtain ⟨⟨s₁, c⟩, closed, h⟩ := Traced.bind_eq_ok_iff.mp h
        rw [← outline_close closed]
        dsimp only at h
        split at h
        · rw [define_frame h]
          rfl
        · cases h
          rfl
      · rename_i closes
        rw [if_neg closes]
        exact outline_addProperty h

/-- What a component that is taken note of names is known from then on. -/
theorem known_of_define {c : Component} {id : Property} (h : s.define c = .ok s')
    (only : c.identifiers = [id]) : (s'.zones.named? (bareIdentifier id.text)).isSome = true := by
  unfold define at h
  rw [only] at h
  dsimp only at h
  split at h
  · rename_i known
    cases h
    exact known
  · split at h
    · cases h
    · obtain ⟨zone, -, h⟩ := Traced.bind_eq_ok_iff.mp h
      cases h
      exact Registry.named?_define _ _ _

/-- A line that ends a zone and is read leaves that zone known. -/
theorem known_of_step {c : Component} {outer : List Component} {id : Property} (stepped : s.step line = .ok s')
    (ends : EndsZone line) (innermost : s.pending = c :: outer) (only : c.identifiers = [id]) :
    (s'.zones.named? (bareIdentifier id.text)).isSome = true := by
  obtain ⟨l, read, named, zone⟩ := ends
  rw [step_of_parse read, readLine, if_neg (by simp [named]), if_pos named] at stepped
  obtain ⟨⟨s₁, d⟩, closed, defined⟩ := Traced.bind_eq_ok_iff.mp stepped
  rw [if_pos zone] at defined
  have same : c = d := by
    rcases close_cases closed with ⟨alone, -⟩ | ⟨parent, rest, nested, -⟩
    · exact (List.cons.inj (innermost.symm.trans alone)).1
    · exact (List.cons.inj (innermost.symm.trans nested)).1
  rw [same] at only
  exact known_of_define defined only

/-- A line that has been read is no snag for the same outline once the zones that it leaves are known. -/
theorem not_snag_again {s₁ : Progress} (stepped : s.step line = .ok s₁) (same : s'.outline = s.outline)
    (known : s₁.zones.Extends s'.zones) : ¬ Snag s' line f := by
  have smooth (f : Fault) : ¬ Snag s line f := fun snag => by
    rw [step_eq_fault_iff.mpr snag] at stepped
    cases stepped
  have innermost {c : Component} {outer : List Component} (h : s'.pending = c :: outer) :
      ∃ d rest, s.pending = d :: rest ∧ c.name = d.name ∧ c.identifiers = d.identifiers := by
    rw [outline, outline, h] at same
    cases here : s.pending with
    | nil => simp [here] at same
    | cons d rest =>
      simp only [here, List.map_cons, List.cons.injEq, Prod.mk.injEq] at same
      exact ⟨d, rest, rfl, same.1.1, same.1.2⟩
  intro snag
  cases snag with
  | zone ends open' unfit =>
    obtain ⟨d, rest, here, name, ids⟩ := innermost open'
    have passed {id : Property} (only : d.identifiers = [id])
        (unknown : (s'.zones.named? (bareIdentifier id.text)).isSome = false) : False := by
      have left := known_of_step stepped ends here only
      rw [known.unknown unknown] at left
      cases left
    cases unfit with
    | foreign only unknown other => exact passed (ids ▸ only) unknown
    | unmade only unknown zone observed fails => exact passed (ids ▸ only) unknown
    | crowded several =>
      rw [ids] at several
      exact smooth _ (.zone ends here (.crowded several))
  | date read ambiguous open' strict =>
    obtain ⟨d, rest, here, name, -⟩ := innermost open'
    rw [name] at strict
    exact smooth _ (.date read ambiguous here strict)

/-- Lines that have been read come upon no snag when they are read again with all their zones known. -/
theorem not_stuck_again {ls : List (List Char)} {zones : Registry} {cs : List Component}
    (ran : s.run ls = (zones, .ok cs)) (same : s'.outline = s.outline) (known : zones.Extends s'.zones) :
    ¬ Stuck s' ls f := by
  -- The second reading keeps to the outline of the first and knows more zones, so that the first would have
  -- been stuck where it is.
  induction ls generalizing s s' with
  | nil =>
    intro stuck
    cases stuck
  | cons line rest ih =>
    rw [run] at ran
    split at ran
    · rename_i s₁ stepped
      intro stuck
      cases stuck with
      | here snag =>
        have later := run_extends s₁ rest
        rw [ran] at later
        exact not_snag_again stepped same (later.trans known) snag
      | later reads stuck =>
        refine ih ran ?_ (known.trans (change_extends (step_change reads))) stuck
        rw [outline_step reads, outline_step stepped, same]
    · cases ran

end Progress

/-- Reading a document ends with a fault exactly if its lines come upon a snag. -/
theorem readComponents_eq_fault_iff [ZoneMaker] {zones : Registry} {text : List Char} {f : Fault} :
    (readComponents zones text).2 = .error (.fault f) ↔ Progress.Stuck ⟨[], [], zones⟩ (lines text) f := by
  rw [← Progress.run_eq_fault_iff, readComponents]
  split
  · rename_i zones' cs ran
    have settled : ¬ Progress.Stuck ⟨[], [], zones'⟩ (lines text) f :=
      Progress.not_stuck_again ran rfl (.refl zones')
    rw [← Progress.run_eq_fault_iff] at settled
    rw [ran]
    split
    · simp [settled]
    · rfl
  · rfl

end FeedSieve.ICalendar
