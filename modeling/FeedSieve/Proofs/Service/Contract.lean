import FeedSieve.Proofs.Sieve.Collect
import FeedSieve.Service

/-!
# How calls for feeds are answered

`contract` says what a call for a feed is answered with, which requests are made for it and which failure
is reported: the URL comes first, then the filter, then the feed. Main statement: `answer_contract`.
-/
namespace FeedSieve.Service

def feedPath : Output.Format → String
  | .json => "/v1/json"
  | .calendar => "/v1/ical"

/-- The answer that does not say what went wrong. -/
def internalError : Answer := .error 500 "InternalServerError" "internal server error"

def refusedEntry (level : Log.Level) (path name message : String) : Log.Entry :=
  ⟨level, "request_failed", [("path", .string path), ("error", .string name),
    ("message", .string message)]⟩

def faultEntry (path : String) : Log.Entry := ⟨.error, "unhandled_error", [("path", .string path)]⟩

/-- What a call for a feed comes to. -/
structure Verdict where
  answer : Answer
  requests : List Feed.Request
  /-- The failure that is reported, if there is one. -/
  failures : List Log.Entry

def refusal (status : Nat) (level : Log.Level) (requests : List Feed.Request)
    (path name message : String) : Verdict :=
  ⟨.error status name message, requests, [refusedEntry level path name message]⟩

/-- The verdict on a call for a feed in a format, by its query and what the feed's source does. -/
def contract [Time.ZoneLibrary] [ICalendar.ZoneMaker] (s : Sieve) (zones : ICalendar.Registry)
    (now : Time.Instant) (format : Output.Format) (query : String) : Verdict :=
  let path := feedPath format
  match parameter? query "url" with
  | none => ⟨.error 400 "BadRequest" "query.url: Field required", [], []⟩
  | some url =>
    match readFilter (parameter? query "filter") with
    | .error (.refused (.filter cause)) =>
      refusal 400 .warning [] path (Refusal.filterName cause.cause) cause.message
    | .error _ => ⟨internalError, [], [faultEntry path]⟩
    | .ok e =>
      let requests := [s.request url]
      match (s.collect zones url e now).2.value with
      | .error (.refused (.fetch cause)) =>
        refusal 502 .error requests path "FetchError" cause.message
      | .error (.refused (.feed cause)) =>
        refusal 502 .error requests path "SourceParseError" cause.message
      | .error _ => ⟨internalError, requests, [faultEntry path]⟩
      | .ok events => ⟨⟨200, some format.mediaType, format.render s.prodid events⟩, requests, []⟩

def isFailure (e : Log.Entry) : Bool := e.event == "request_failed" || e.event == "unhandled_error"

/-- A call has come to a verdict: its failure is reported, and the last entry, and no other, tells of the
answer. -/
structure Settles (call : Call) (v : Verdict) (x : Feed.Exchange Answer) : Prop where
  answer : x.value = v.answer
  requests : x.requests = v.requests
  failures : x.entries.filter isFailure = v.failures
  last : ∃ before, x.entries = before ++ [answerEntry call v.answer] ∧ ∀ e ∈ before, e.event ≠ "request"

theorem stage_not_failure {e : Log.Entry} (h : IsStage e) :
    isFailure e = false ∧ e.event ≠ "request" := by
  have names : ∀ name ∈ stageNames,
      (name == "request_failed" || name == "unhandled_error") = false ∧ name ≠ "request" := by decide
  exact names e.event h

theorem filter_stages {entries : List Log.Entry} (stages : ∀ e ∈ entries, IsStage e) :
    entries.filter isFailure = [] := by
  apply List.filter_eq_nil_iff.mpr
  intro e member
  rw [(stage_not_failure (stages e member)).1]
  exact Bool.false_ne_true

/-- A call settles when its entries are stages, then perhaps a failure, then the answer. -/
theorem settles_of_stages {call : Call} {v : Verdict} {x : Feed.Exchange Answer}
    (stages : List Log.Entry) (only : ∀ e ∈ stages, IsStage e)
    (failed : ∀ e ∈ v.failures, isFailure e = true) (answer : x.value = v.answer)
    (requests : x.requests = v.requests)
    (entries : x.entries = stages ++ v.failures ++ [answerEntry call v.answer]) :
    Settles call v x where
  answer := answer
  requests := requests
  failures := by
    have told : [answerEntry call v.answer].filter isFailure = [] := rfl
    rw [entries, List.filter_append, List.filter_append, filter_stages only,
      List.filter_eq_self.mpr failed, told, List.nil_append, List.append_nil]
  last := by
    refine ⟨stages ++ v.failures, entries, ?_⟩
    intro e member
    rcases List.mem_append.mp member with stage | failure
    · exact (stage_not_failure (only e stage)).2
    · intro request
      have report := failed e failure
      rw [isFailure, request] at report
      exact absurd report (by decide)

theorem answerFeed_noUrl [Time.ZoneLibrary] [ICalendar.ZoneMaker] (call : Call)
    (missing : parameter? call.query "url" = none) (s : Sieve) (zones : ICalendar.Registry)
    (clock : Time.Instant) (format : Output.Format) :
    answerFeed s zones clock format call = (zones, ⟨[], [], .noUrl⟩) := by
  rw [answerFeed, missing]

theorem answerFeed_url [Time.ZoneLibrary] [ICalendar.ZoneMaker] (call : Call) {url : String}
    (given : parameter? call.query "url" = some url) (s : Sieve) (zones : ICalendar.Registry)
    (clock : Time.Instant) (format : Output.Format) :
    (answerFeed s zones clock format call).2 =
      let result := (s.sieve zones url (parameter? call.query "filter") format clock.wholeSecond).2
      match result.value with
      | .ok body => { result with value := ⟨200, some format.mediaType, body⟩ }
      | .error cause =>
        ⟨result.requests, result.entries ++ [failureEntry call.path cause], .failure cause⟩ := by
  rw [answerFeed, given]
  dsimp only
  cases (s.sieve zones url (parameter? call.query "filter") format clock.wholeSecond).2.value <;> rfl

/-- The paths of feeds lead to them. -/
theorem dispatch_feed [Time.ZoneLibrary] [ICalendar.ZoneMaker] (s : Sieve) (zones : ICalendar.Registry)
    (clock : Time.Instant) (format : Output.Format) (query : String) :
    dispatch s zones clock ⟨"GET", feedPath format, query⟩
      = answerFeed s zones clock format ⟨"GET", feedPath format, query⟩ := by
  cases format <;> rfl

/-- A call for a feed comes to the verdict of the contract, whatever its query is and whatever the source
of the feed does. -/
theorem answer_contract [Time.ZoneLibrary] [ICalendar.ZoneMaker] (s : Sieve) (zones : ICalendar.Registry)
    (clock : Time.Instant) (format : Output.Format) (query : String) :
    Settles ⟨"GET", feedPath format, query⟩ (contract s zones clock.wholeSecond format query)
      (answer s zones clock ⟨"GET", feedPath format, query⟩).2 := by
  have none : ∀ e ∈ ([] : List Log.Entry), IsStage e := by simp
  unfold answer
  rw [dispatch_feed]
  dsimp only
  cases given : parameter? query "url" with
  | none =>
    rw [answerFeed_noUrl ⟨"GET", feedPath format, query⟩ given, contract, given]
    exact settles_of_stages [] none (by simp) rfl rfl rfl
  | some url =>
    rw [answerFeed_url ⟨"GET", feedPath format, query⟩ given, contract, given]
    dsimp only
    cases filter : readFilter (parameter? query "filter") with
    | error failure =>
      rw [s.sieve_unread zones url _ filter]
      cases failure with
      | refused cause =>
        obtain ⟨c, rfl⟩ := readFilter_refused filter
        exact settles_of_stages [] none (by simp [refusal, refusedEntry, isFailure]) rfl rfl rfl
      | fault f => exact settles_of_stages [] none (by simp [faultEntry, isFailure]) rfl rfl rfl
    | ok e =>
      have only := s.collect_stages zones url e clock.wholeSecond
      have requests := s.collect_requests zones url e clock.wholeSecond
      have refused : ∀ cause,
          (s.collect zones url e clock.wholeSecond).2.value = .error (.refused cause) →
          (∃ c, cause = .fetch c) ∨ (∃ c, cause = .feed c) :=
        fun _ h => s.collect_refused zones url e _ h
      rw [s.sieve_read zones url _ filter]
      dsimp only
      generalize (s.collect zones url e clock.wholeSecond).2 = x at *
      cases collected : x.value with
      | error failure =>
        cases failure with
        | refused cause =>
          rcases refused cause collected with ⟨c, rfl⟩ | ⟨c, rfl⟩ <;>
            refine settles_of_stages x.entries only (by simp [refusal, refusedEntry, isFailure]) rfl
              requests ?_ <;>
            simp [Except.map, failureEntry, refusal, refusedEntry, Answer.failure, Refusal.status,
              Refusal.name, Refusal.message]
        | fault f =>
          refine settles_of_stages x.entries only (by simp [faultEntry, isFailure]) rfl requests ?_
          simp [Except.map, failureEntry, faultEntry, Answer.failure, internalError]
      | ok events =>
        refine settles_of_stages x.entries only (by simp) rfl requests ?_
        simp [Except.map]

end FeedSieve.Service
