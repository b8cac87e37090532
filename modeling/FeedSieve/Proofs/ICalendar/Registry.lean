import FeedSieve.Proofs.ICalendar.Document
import Mathlib.Data.List.DropRight

/-!
# How the registry of zones grows

Reading a document adds zones to the registry and changes none that it holds. A zone that is added has an
identifier without slashes around it that no listed zone has (`Definable`).
-/
namespace FeedSieve.ICalendar

/-! ## Identifiers -/

/-- An identifier without slashes around it has none to lose. -/
theorem bareIdentifier_bareIdentifier (id : String) :
    bareIdentifier (bareIdentifier id) = bareIdentifier id := by
  let isSlash := fun c : Char => c == '/'
  let front := id.toList.dropWhile isSlash
  let bare := front.rdropWhile isSlash
  have ends : bareIdentifier id = String.ofList bare := rfl
  have noneInFront : bare.dropWhile isSlash = bare := by
    rw [List.dropWhile_eq_self_iff]
    intro nonempty
    -- What is dropped at the end leaves the first character in its place, and that one is no slash.
    have first := List.IsPrefix.getElem (List.rdropWhile_prefix isSlash front) nonempty
    rw [first]
    exact List.dropWhile_get_zero_not isSlash id.toList _
  have again : bareIdentifier (String.ofList bare)
      = String.ofList ((bare.dropWhile isSlash).rdropWhile isSlash) := by
    rw [bareIdentifier, String.toList_ofList]
    rfl
  rw [ends, again, noneInFront, List.rdropWhile_idempotent]

/-! ## Growth -/

namespace Registry

/-- A zone under an identifier that a calendar may define. -/
structure Definable (d : String × CustomZone) : Prop where
  bare : bareIdentifier d.1 = d.1
  unlisted : Time.Zone.find? d.1 = none

/-- A registry with zones added at the end. -/
def Extends (r r' : Registry) : Prop := ∃ more, r' = r ++ more ∧ ∀ d ∈ more, Definable d

theorem Extends.refl (r : Registry) : r.Extends r := ⟨[], by simp, by simp⟩

theorem Extends.trans {r₁ r₂ r₃ : Registry} (h : r₁.Extends r₂) (h' : r₂.Extends r₃) :
    r₁.Extends r₃ := by
  obtain ⟨more, rfl, definable⟩ := h
  obtain ⟨more', rfl, definable'⟩ := h'
  refine ⟨more ++ more', by rw [List.append_assoc], ?_⟩
  intro d member
  rcases List.mem_append.mp member with earlier | later
  · exact definable d earlier
  · exact definable' d later

/-- A registry without zones comes from one without zones only. -/
theorem Extends.eq_nil {r : Registry} (h : r.Extends []) : r = [] := by
  obtain ⟨more, same, -⟩ := h
  exact (List.append_eq_nil_iff.mp same.symm).1

/-- All zones that were added to none can be defined. -/
theorem Extends.definable {r : Registry} (h : Registry.Extends [] r) : ∀ d ∈ r, Definable d := by
  obtain ⟨more, rfl, definable⟩ := h
  simpa using definable

theorem named?_isSome_of_mem {r : Registry} {d : String × CustomZone} (member : d ∈ r) :
    (r.named? d.1).isSome = true := by
  unfold named?
  split
  · rfl
  · rename_i absent
    have other := List.find?_eq_none.mp absent d member
    exact absurd (beq_self_eq_true d.1) other

/-- An identifier that is not known under any registry is not listed. -/
theorem unlisted_of_named? {r : Registry} {id : String} (h : (r.named? id).isSome = false) :
    Time.Zone.find? id = none := by
  unfold named? at h
  split at h
  · cases h
  · simpa using h

/-- An identifier that is not known in a registry was not known before. -/
theorem Extends.unknown {r r' : Registry} (h : r.Extends r') {id : String}
    (unknown : (r'.named? id).isSome = false) : (r.named? id).isSome = false := by
  obtain ⟨more, rfl, -⟩ := h
  unfold named? at unknown ⊢
  rw [List.find?_append] at unknown
  cases found : r.find? (·.1 == id) with
  | some d => simp [found] at unknown
  | none =>
    rw [found, Option.none_or] at unknown
    split at unknown
    · cases unknown
    · exact unknown

theorem extends_define (r : Registry) (id : String) (zone : CustomZone) :
    r.Extends (r.define id zone) := by
  unfold define
  dsimp only
  split
  · exact .refl r
  · rename_i unknown
    refine ⟨[(bareIdentifier id, zone)], rfl, ?_⟩
    intro d member
    rw [List.mem_singleton.mp member]
    exact ⟨bareIdentifier_bareIdentifier id, unlisted_of_named? (by simpa using unknown)⟩

/-- A zone that is added is known under its identifier. -/
theorem named?_define (r : Registry) (id : String) (zone : CustomZone) :
    ((r.define id zone).named? (bareIdentifier id)).isSome = true := by
  unfold define
  dsimp only
  split
  · rename_i known
    exact known
  · have added : (bareIdentifier id, zone) ∈ r ++ [(bareIdentifier id, zone)] := by simp
    have known := named?_isSome_of_mem added
    exact known

end Registry

/-! ## Documents -/

/-- A definition without observances gives no zone. -/
theorem Component.zone_of_hollow [ZoneMaker] {c : Component} (hollow : c.observances = []) :
    c.zone = .error (.zone (ZoneMaker.hollow c)) := if_pos hollow

namespace Progress

section NewZone

variable [ZoneMaker] {s : Progress} {c : Component} {id : Property} (named : c.identifiers = [id])
  (unknown : (s.zones.named? (bareIdentifier id.text)).isSome = false) (isZone : c.name = "VTIMEZONE")

include named unknown isZone

/-- A zone that is not known is defined if its definition gives one. -/
theorem define_unknown {zone : CustomZone} (made : c.zone = .ok zone) :
    s.define c = .ok { s with zones := s.zones ++ [(bareIdentifier id.text, zone)] } := by
  unfold define
  rw [named]
  dsimp only
  rw [unknown, if_neg (by decide), if_neg (not_not.mpr isZone), made, Traced.ok_bind, Registry.define, unknown,
    if_neg (by decide)]
  rfl

theorem define_unmade {e : DocumentError} (unmade : c.zone = .error e) : s.define c = .error e := by
  unfold define
  rw [named]
  dsimp only
  rw [unknown, if_neg (by decide), if_neg (not_not.mpr isZone), unmade]
  rfl

end NewZone

theorem define_extends [ZoneMaker] {s s' : Progress} {c : Component} (h : s.define c = .ok s') :
    s.zones.Extends s'.zones := by
  rcases define_cases h with rfl | ⟨id, zone, -, -, -, -, rfl⟩
  · exact .refl _
  · exact Registry.extends_define _ _ _

theorem close_zones {s s' : Progress} {c : Component} (h : s.close = .ok (s', c)) :
    s'.zones = s.zones := by
  rcases close_cases h with ⟨-, rfl⟩ | ⟨parent, rest, -, rfl⟩ <;> rfl

/-- Only a zone that closes adds to the registry. -/
theorem change_extends [ZoneMaker] {s s' : Progress} (h : Change s s') : s.zones.Extends s'.zones := by
  cases h with
  | passed => exact .refl _
  | opened name => exact .refl _
  | closed _ c closes =>
    rw [close_zones closes]
    exact .refl _
  | defined s₁ _ c closes defines =>
    rw [← close_zones closes]
    exact define_extends defines
  | added c rest l innermost => exact .refl _

/-- Reading lines only adds zones, also when it fails. -/
theorem run_extends [ZoneMaker] (s : Progress) (ls : List (List Char)) : s.zones.Extends (run s ls).1 := by
  induction ls generalizing s with
  | nil => exact .refl _
  | cons line rest ih =>
    unfold run
    split
    · rename_i s' stepped
      exact (change_extends (step_change stepped)).trans (ih s')
    · exact .refl _

end Progress

/-- Reading a document only adds zones, also when it is read twice. -/
theorem readComponents_extends [ZoneMaker] (zones : Registry) (text : List Char) :
    zones.Extends (readComponents zones text).1 := by
  have first := Progress.run_extends ⟨[], [], zones⟩ (lines text)
  unfold readComponents
  dsimp only
  split
  · rename_i zones' cs ran
    rw [ran] at first
    split
    · exact first.trans (Progress.run_extends ⟨[], [], zones'⟩ (lines text))
    · exact first
  · exact first

end FeedSieve.ICalendar
