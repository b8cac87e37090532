import Mathlib.Data.List.Forall2
import FeedSieve.Proofs.Filter.Clause
import FeedSieve.Proofs.Sieve.Collect
import FeedSieve.Proofs.Text.Split

/-!
# Filters from pieces

A filter is read piece by piece, and the first piece that is no clause refuses it (`ofSegments_eq_ok_iff`,
`ofSegments_eq_error_iff`). So two filters with a separator between them are read one after the other, and
what passes both passes their join. Main statement: `parse_piecewise`.
-/
namespace FeedSieve.Filter

/-! ## Pieces -/

/-- The pieces of a filter: no piece holds a separator, and separators between them give the filter. -/
structure Divided (raw : String) (pieces : List String) : Prop where
  joined : "~".intercalate pieces = raw
  nonempty : pieces ≠ []
  bare : ∀ piece ∈ pieces, '~' ∉ piece.toList

def filled (pieces : List String) : List String := pieces.filter (· ≠ "")

theorem divided_iff (raw : String) (pieces : List String) :
    Divided raw pieces ↔ pieces.map String.toList = Text.splitAt '~' raw.toList := by
  have letters : "~".toList = ['~'] := rfl
  rw [Text.eq_splitAt_iff, ← letters, ← String.toList_intercalate, String.toList_inj, ne_eq,
    List.map_eq_nil_iff, List.forall_mem_map]
  exact ⟨fun h => ⟨h.joined, h.nonempty, h.bare⟩, fun h => ⟨h.1, h.2.1, h.2.2⟩⟩

/-- Every filter has pieces. -/
theorem exists_divided (raw : String) : ∃ pieces, Divided raw pieces := by
  refine ⟨(Text.splitAt '~' raw.toList).map String.ofList, (divided_iff raw _).mpr ?_⟩
  rw [List.map_map]
  exact List.map_id'' (fun _ => String.toList_ofList) _

/-- A filter has its pieces in one way only. -/
theorem Divided.unique {raw : String} {pieces other : List String} (h : Divided raw pieces)
    (h' : Divided raw other) : pieces = other :=
  List.map_injective_iff.mpr (fun _ _ => String.toList_inj.mp)
    (((divided_iff raw pieces).mp h).trans ((divided_iff raw other).mp h').symm)

/-- The segments of a filter are its pieces that are not empty. -/
theorem Divided.segments_eq {raw : String} {pieces : List String} (h : Divided raw pieces) :
    segments raw = filled pieces := by
  rw [segments, ← (divided_iff raw pieces).mp h, List.filter_map, List.map_map]
  have same : String.ofList ∘ String.toList = id := funext fun _ => String.ofList_toList
  rw [same, List.map_id, filled]
  refine List.filter_congr fun piece _ => ?_
  simp

theorem segments_join (first second : String) :
    segments (first ++ "~" ++ second) = segments first ++ segments second := by
  have letters : (first ++ "~" ++ second).toList = first.toList ++ '~' :: second.toList := by
    simp [String.toList_append]
  rw [segments, letters, Text.splitAt_append, List.filter_append, List.map_append]
  rfl

/-! ## Reading the segments -/

theorem parseSegment_eq_ok_iff_reads {s : String} {c : Clause} :
    parseSegment s = .ok c ↔ ∃ q, Reads s c q :=
  (parseSegment_eq_ok_iff s c).trans (parse_eq_ok_iff s c)

/-- Segments are read as a list of clauses exactly if each is read as its clause. -/
theorem ofSegments_eq_ok_iff (segments : List String) (clauses : List Clause) :
    Expression.ofSegments segments = .ok clauses ↔
      List.Forall₂ (fun s c => parseSegment s = .ok c) segments clauses := by
  induction segments generalizing clauses with
  | nil => simp [Expression.ofSegments, eq_comm]
  | cons s rest ih =>
    rw [Expression.ofSegments, Traced.bind_eq_ok_iff, List.forall₂_cons_left_iff]
    simp only [Traced.bind_eq_ok_iff, ih]
    constructor
    · rintro ⟨c, first, later, others, ⟨⟩⟩
      exact ⟨c, later, first, others, rfl⟩
    · rintro ⟨c, later, first, others, rfl⟩
      exact ⟨c, first, later, others, rfl⟩

theorem ofSegments_eq_mapM (segments : List String) :
    Expression.ofSegments segments = segments.mapM parseSegment := by
  induction segments with
  | nil => rfl
  | cons s rest ih => rw [Expression.ofSegments, List.mapM_cons, ih]

/-- Segments are refused with an error exactly if it is that of a segment behind clauses only. -/
theorem ofSegments_eq_error_iff (segments : List String) (error : FilterError) :
    Expression.ofSegments segments = .error error ↔
      ∃ before s after, segments = before ++ s :: after ∧
        (∀ t ∈ before, ∃ c, parseSegment t = .ok c) ∧ parseSegment s = .error error := by
  rw [ofSegments_eq_mapM, Traced.mapM_eq_error_iff]

theorem ofSegments_append (first second : List String) :
    Expression.ofSegments (first ++ second) = (do
      let clauses ← Expression.ofSegments first
      let more ← Expression.ofSegments second
      return clauses ++ more) := by
  simp only [ofSegments_eq_mapM]
  exact List.mapM_append

/-! ## Reading a filter -/

theorem parse_eq_ok_iff_forall (raw : String) (e : Expression) :
    Expression.parse raw = .ok e ↔
      List.Forall₂ (fun s c => parseSegment s = .ok c) (segments raw) e.clauses := by
  rw [Expression.parse, Traced.map_eq_ok_iff, ← ofSegments_eq_ok_iff]
  constructor
  · rintro ⟨clauses, read, rfl⟩
    exact read
  · intro read
    exact ⟨e.clauses, read, rfl⟩

theorem parse_eq_error_iff (raw : String) (error : FilterError) :
    Expression.parse raw = .error error ↔
      ∃ before s after, segments raw = before ++ s :: after ∧
        (∀ t ∈ before, ∃ c, parseSegment t = .ok c) ∧ parseSegment s = .error error := by
  rw [Expression.parse, Traced.map_eq_error_iff, ofSegments_eq_error_iff]

/-- A filter can be read exactly if each of its segments can. -/
theorem exists_parse_iff (raw : String) :
    (∃ e, Expression.parse raw = .ok e) ↔ ∀ s ∈ segments raw, ∃ c, parseSegment s = .ok c := by
  constructor
  · rintro ⟨e, read⟩
    have each := (parse_eq_ok_iff_forall raw e).mp read
    generalize segments raw = list, e.clauses = clauses at each
    induction each with
    | nil => simp
    | cons first _ ih => exact List.forall_mem_cons.mpr ⟨⟨_, first⟩, ih⟩
  · intro each
    cases read : Expression.parse raw with
    | ok e => exact ⟨e, rfl⟩
    | error error =>
      obtain ⟨before, s, after, cut, -, refused⟩ := (parse_eq_error_iff raw error).mp read
      obtain ⟨c, clause⟩ := each s (cut ▸ List.mem_append_cons_self)
      rw [clause] at refused
      cases refused

/-- Two filters with a separator between them are read one after the other. -/
theorem parse_join (first second : String) :
    Expression.parse (first ++ "~" ++ second) = (do
      let f ← Expression.parse first
      let g ← Expression.parse second
      return ⟨f.clauses ++ g.clauses⟩) := by
  simp only [Expression.parse, segments_join, ofSegments_append]
  cases Expression.ofSegments (segments first) with
  | error error => rfl
  | ok clauses =>
    cases Expression.ofSegments (segments second) with
    | error error => rfl
    | ok more => rfl

/-! ## Events that pass -/

/-- A title passes the clauses of two expressions if it passes both. -/
theorem accepts_join (f g : Expression) (title : String) :
    Expression.accepts ⟨f.clauses ++ g.clauses⟩ title = (f.accepts title && g.accepts title) :=
  List.all_append

/-- The events that pass two expressions are those that pass the first and then the second. -/
theorem filter_accepts_join (f g : Expression) (events : List Event) :
    events.filter (Expression.accepts ⟨f.clauses ++ g.clauses⟩ ·.summary) =
      (events.filter (f.accepts ·.summary)).filter (g.accepts ·.summary) := by
  rw [List.filter_filter]
  refine List.filter_congr fun event _ => ?_
  rw [accepts_join, Bool.and_comm]

/-- What is collected with the clauses of two expressions is what passes the second of what is collected
with the first. -/
theorem collect_join [Time.ZoneLibrary] [ICalendar.ZoneMaker] (s : Sieve) (zones : ICalendar.Registry)
    (url : String) (f g : Expression) (now : Time.Instant) :
    (s.collect zones url ⟨f.clauses ++ g.clauses⟩ now).2.value =
      (s.collect zones url f now).2.value.map (List.filter (g.accepts ·.summary)) := by
  cases fetched : (Feed.fetch s.client s.transport url).value with
  | error cause => simp only [s.collect_value_unfetched _ _ _ _ fetched, Except.map]
  | ok text =>
    rw [(s.collect_fetched zones url _ now fetched).2, (s.collect_fetched zones url f now fetched).2]
    cases (Feed.normalize zones text now).2.outcome with
    | error cause => rfl
    | ok events => exact congrArg Except.ok (filter_accepts_join f g events)

/-- A filter is read exactly if every piece of it that is not empty is a clause, and then these are its
clauses in order; otherwise it is refused with the error of the first piece that is none. Hence of two
filters with a separator between them the second is read if the first can be, both give their clauses, and
the events that pass the join are those that pass the first and then the second. -/
theorem parse_piecewise [Time.ZoneLibrary] [ICalendar.ZoneMaker] (raw first second : String) :
    (∃ pieces, Divided raw pieces ∧ (∀ other, Divided raw other → other = pieces) ∧
      ((∃ e, Expression.parse raw = .ok e) ↔ ∀ s ∈ filled pieces, ∃ c, parseSegment s = .ok c) ∧
      (∀ e, Expression.parse raw = .ok e ↔
        List.Forall₂ (fun s c => parseSegment s = .ok c) (filled pieces) e.clauses) ∧
      (∀ error, Expression.parse raw = .error error ↔
        ∃ before s after, filled pieces = before ++ s :: after ∧
          (∀ t ∈ before, ∃ c, parseSegment t = .ok c) ∧ parseSegment s = .error error)) ∧
    (∀ error, Expression.parse first = .error error →
      Expression.parse (first ++ "~" ++ second) = .error error) ∧
    (∀ f error, Expression.parse first = .ok f → Expression.parse second = .error error →
      Expression.parse (first ++ "~" ++ second) = .error error) ∧
    (∀ f g, Expression.parse first = .ok f → Expression.parse second = .ok g →
      ∃ e, Expression.parse (first ++ "~" ++ second) = .ok e ∧ e.clauses = f.clauses ++ g.clauses ∧
        (∀ events : List Event, events.filter (e.accepts ·.summary) =
          (events.filter (f.accepts ·.summary)).filter (g.accepts ·.summary)) ∧
        ∀ (s : Sieve) (zones : ICalendar.Registry) (url : String) (now : Time.Instant),
          (s.collect zones url e now).2.value =
            (s.collect zones url f now).2.value.map (List.filter (g.accepts ·.summary))) := by
  refine ⟨?_, ?_, ?_, ?_⟩
  · obtain ⟨pieces, divided⟩ := exists_divided raw
    refine ⟨pieces, divided, fun other divided' => divided'.unique divided, ?_⟩
    rw [← divided.segments_eq]
    exact ⟨exists_parse_iff raw, parse_eq_ok_iff_forall raw, parse_eq_error_iff raw⟩
  · intro error refused
    rw [parse_join, refused]
    rfl
  · intro f error read refused
    rw [parse_join, read, refused]
    rfl
  · intro f g read read'
    refine ⟨⟨f.clauses ++ g.clauses⟩, ?_, rfl, filter_accepts_join f g, fun s zones url now =>
      collect_join s zones url f g now⟩
    rw [parse_join, read, read']
    rfl

/-- A filter that ends its own piece and begins with an empty one is read behind another. -/
theorem parse_piecewise_joined :
    Expression.parse "contains:a" = .ok ⟨[⟨.contains "a", false⟩]⟩ ∧
    Expression.parse "~!true:x" = .ok ⟨[⟨.always, true⟩]⟩ ∧
    ∃ e, Expression.parse "contains:a~~!true:x" = .ok e ∧
      e.clauses = [⟨.contains "a", false⟩, ⟨.always, true⟩] := by
  have first : Expression.parse "contains:a" = .ok ⟨[⟨.contains "a", false⟩]⟩ := by
    have cut : segments "contains:a" = ["contains:a"] := by decide
    rw [parse_eq_ok_iff_forall, cut]
    exact .cons (parseSegment_eq_ok_iff_reads.mpr ⟨"a", by decide, rfl, by simp⟩) .nil
  have second : Expression.parse "~!true:x" = .ok ⟨[⟨.always, true⟩]⟩ := by
    have cut : segments "~!true:x" = ["!true:x"] := by decide
    rw [parse_eq_ok_iff_forall, cut]
    exact .cons (parseSegment_eq_ok_iff_reads.mpr ⟨"x", by decide, rfl, by simp⟩) .nil
  obtain ⟨e, read, clauses, -⟩ := (parse_piecewise "" "contains:a" "~!true:x").2.2.2 _ _ first second
  exact ⟨first, second, e, read, clauses⟩

end FeedSieve.Filter
