import FeedSieve.Proofs.Sieve.Collect

/-!
# Runs one after the other

A run finds the zones that the runs before it have left and leaves those and its own. So a history of
runs shows in a later answer only by its zones, and it shows in some later answer as soon as it leaves
one. Main statement: `independent_iff`.
-/
namespace FeedSieve

open ICalendar

/-! ## Runs -/

/-- What a caller asks for, and what answers the requests at that time. -/
structure Job where
  transport : Feed.Transport
  url : String
  filter : Option String
  format : Output.Format

section Runs

variable (client : Feed.Client) (prodid : String) (now : Time.Instant)
variable [Time.ZoneLibrary] [ZoneMaker]

/-- The zones that a run leaves and its answer, from the zones it finds. -/
def Job.run (job : Job) (zones : Registry) : Registry × Except Failure String :=
  let done := (Sieve.mk client prodid job.transport).sieve zones job.url job.filter job.format now
  (done.1, done.2.value)

def Job.feed? (job : Job) : Option String :=
  match readFilter job.filter with
  | .ok _ => (Feed.fetch client job.transport job.url).value.toOption
  | .error _ => none

/-- The answer of a run on its own. -/
def Job.alone (job : Job) : Except Failure String := (job.run client prodid now []).2

def zonesAfter (zones : Registry) : List Job → Registry
  | [] => zones
  | job :: rest => zonesAfter (job.run client prodid now zones).1 rest

def answers (zones : Registry) : List Job → List (Except Failure String)
  | [] => []
  | job :: rest =>
    (job.run client prodid now zones).2 :: answers (job.run client prodid now zones).1 rest

/-- No run of a history and no run after it is answered otherwise than alone. -/
def Independent (history : List Job) : Prop :=
  ∀ later, answers client prodid now [] (history ++ [later])
    = (history ++ [later]).map (Job.alone client prodid now)

/-- A run only adds zones, also when it fails. -/
theorem Job.run_extends (job : Job) (zones : Registry) :
    zones.Extends (job.run client prodid now zones).1 := by
  cases read : readFilter job.filter with
  | ok e =>
    rw [Job.run, Sieve.sieve_read _ _ _ _ read]
    exact Sieve.collect_extends _ _ _ _ _
  | error cause =>
    rw [Job.run, Sieve.sieve_unread _ _ _ _ read]
    exact .refl zones

/-- A run on its own leaves the zones that its feed defines. -/
theorem Job.run_leaves_nil_iff (job : Job) :
    (job.run client prodid now []).1 = [] ↔
      ∀ text, job.feed? client = some text → (Feed.parseCalendars [] text).1 = [] := by
  cases read : readFilter job.filter with
  | error cause =>
    rw [Job.run, Sieve.sieve_unread _ _ _ _ read, Job.feed?, read]
    simp
  | ok e =>
    rw [Job.run, Sieve.sieve_read _ _ _ _ read, Job.feed?, read]
    dsimp only
    cases fetched : (Feed.fetch client job.transport job.url).value with
    | error cause =>
      rw [Sieve.collect_unfetched _ _ _ _ _ fetched]
      simp [Except.toOption]
    | ok text =>
      rw [(Sieve.collect_fetched _ _ _ _ _ fetched).1, Feed.normalize_zones]
      simp [Except.toOption]

theorem zonesAfter_extends (jobs : List Job) (zones : Registry) :
    zones.Extends (zonesAfter client prodid now zones jobs) := by
  induction jobs generalizing zones with
  | nil => exact .refl zones
  | cons job rest ih => exact (job.run_extends client prodid now zones).trans (ih _)

/-- Runs leave no zone together exactly if none of them does alone. -/
theorem zonesAfter_eq_nil_iff (jobs : List Job) :
    zonesAfter client prodid now [] jobs = [] ↔
      ∀ job ∈ jobs, (job.run client prodid now []).1 = [] := by
  induction jobs with
  | nil => simp [zonesAfter]
  | cons job rest ih =>
    rw [List.forall_mem_cons, zonesAfter]
    constructor
    · intro none
      have first : (job.run client prodid now []).1 = [] := by
        have grown := zonesAfter_extends client prodid now rest (job.run client prodid now []).1
        rw [none] at grown
        exact grown.eq_nil
      rw [first] at none
      exact ⟨first, ih.mp none⟩
    · rintro ⟨first, others⟩
      rw [first]
      exact ih.mpr others

/-- The answers after a history start from the zones it leaves. -/
theorem answers_append (zones : Registry) (history more : List Job) :
    answers client prodid now zones (history ++ more)
      = answers client prodid now zones history
        ++ answers client prodid now (zonesAfter client prodid now zones history) more := by
  induction history generalizing zones with
  | nil => rfl
  | cons job rest ih =>
    rw [List.cons_append, answers, answers, zonesAfter, ih, List.cons_append]

/-- Runs that leave no zone are answered as alone. -/
theorem answers_eq_alone {jobs : List Job}
    (none : ∀ job ∈ jobs, (job.run client prodid now []).1 = []) :
    answers client prodid now [] jobs = jobs.map (Job.alone client prodid now) := by
  induction jobs with
  | nil => rfl
  | cons job rest ih =>
    rw [List.forall_mem_cons] at none
    rw [answers, none.1, ih none.2, List.map_cons, Job.alone]

theorem answers_ne_alone (first second : Job)
    (differs : (second.run client prodid now (first.run client prodid now []).1).2
      ≠ second.alone client prodid now) :
    answers client prodid now [] [first, second]
      ≠ [first, second].map (Job.alone client prodid now) := by
  intro same
  exact differs (List.singleton_inj.mp (List.cons.inj same).2)

end Runs

/-! ## A run that tells whether a zone is known -/

/-- A run for a feed that is answered with a text. -/
def Job.ofText (text : String) : Job :=
  ⟨fun _ => .response 200 (Text.Utf8.encode text.toList), "", none, .json⟩

section Runs

variable (client : Feed.Client) (prodid : String) (now : Time.Instant)
variable [Time.ZoneLibrary] [ZoneMaker]

/-- What a run without a filter leaves and answers for a text. -/
theorem Job.run_ofText {text : String} (unmarked : text.toList.head? ≠ some Feed.byteOrderMark)
    (zones : Registry) :
    (Job.ofText text).run client prodid now zones
      = ((Feed.normalize zones text now).1, match (Feed.normalize zones text now).2.outcome with
        | .ok events => .ok (Output.renderJson events)
        | .error cause => .error (.ofFeed cause)) := by
  have accepting : readFilter (Job.ofText text).filter = .ok ⟨[]⟩ := rfl
  have fetched : (Feed.fetch client (Job.ofText text).transport (Job.ofText text).url).value
      = .ok text := congrArg Except.ok (Feed.bodyText_encode unmarked)
  have collected := Sieve.collect_fetched ⟨client, prodid, (Job.ofText text).transport⟩ zones _
    ⟨[]⟩ now fetched
  rw [Job.run, Sieve.sieve_read _ _ _ _ accepting]
  dsimp only
  rw [collected.1, collected.2]
  cases (Feed.normalize zones text now).2.outcome with
  | ok events => simp [Except.map, Output.Format.render, Filter.Expression.accepts, Job.ofText]
  | error cause => rfl

/-- A zone that a text defines is known after the run for the text. -/
theorem Job.named_ofText {text id : String} (unmarked : text.toList.head? ≠ some Feed.byteOrderMark)
    {zones : Registry} (known : ((Feed.normalize zones text now).1.named? id).isSome = true) :
    (((Job.ofText text).run client prodid now zones).1.named? id).isSome = true := by
  rw [Job.run_ofText client prodid now unmarked]
  exact known

/-- A run for the feed of a zone without observances. -/
def Job.ofUnfinished (value : String) : Job :=
  .ofText (Feed.written (Feed.zoneFeed (Feed.unfinishedZone value)))

/-- The feed of a zone without observances is answered if the zone is known, and refused alone. -/
theorem run_unfinishedZone_ne_alone {id value : String} (read : unescape value.toList = id.toList)
    (unbroken : '\n' ∉ value.toList) {zones : Registry}
    (known : (zones.named? (bareIdentifier id)).isSome = true)
    (unknown : (Registry.named? [] (bareIdentifier id)).isSome = false) :
    ((Job.ofUnfinished value).run client prodid now zones).2
      ≠ (Job.ofUnfinished value).alone client prodid now := by
  have plain := Feed.plain_zoneFeed (Feed.plain_unfinishedZone unbroken)
  have unmarked := Feed.unmarked_written plain
  rw [Job.alone, Job.ofUnfinished, Job.run_ofText _ _ _ unmarked, Job.run_ofText _ _ _ unmarked,
    Feed.normalize, (Feed.parse_unfinishedZone read unbroken zones).1 known, Feed.normalize,
    (Feed.parse_unfinishedZone read unbroken []).2 unknown]
  rintro ⟨⟩

/-- A zone that is left by runs shows in the answer of a later one. -/
theorem exists_dependent {zones : Registry} {d : String × CustomZone} (member : d ∈ zones)
    (definable : Registry.Definable d) :
    ∃ job : Job, (job.run client prodid now zones).2 ≠ job.alone client prodid now := by
  obtain ⟨value, unbroken, read⟩ := exists_unescape d.1.toList
  rw [← String.toList_ofList (l := value)] at unbroken read
  refine ⟨_, run_unfinishedZone_ne_alone client prodid now read unbroken ?_ ?_⟩
  · rw [definable.bare]
    exact Registry.named?_isSome_of_mem member
  · rw [definable.bare]
    simp [Registry.named?, definable.unlisted]

/-- No run of a history or after it is answered otherwise than alone, exactly if no feed that the history
reads defines a zone. -/
theorem independent_iff (history : List Job) :
    Independent client prodid now history ↔
      ∀ job ∈ history, ∀ text, job.feed? client = some text →
        (Feed.parseCalendars [] text).1 = [] := by
  simp only [← Job.run_leaves_nil_iff client prodid now]
  rw [← zonesAfter_eq_nil_iff]
  constructor
  · intro independent
    by_contra left
    -- The later run is for a feed that names the zone and gives it no observance.
    obtain ⟨d, member⟩ := List.exists_mem_of_ne_nil _ left
    have grown := zonesAfter_extends client prodid now history []
    obtain ⟨later, differs⟩ := exists_dependent client prodid now member (grown.definable d member)
    have same := independent later
    rw [answers_append, List.map_append] at same
    exact differs (List.singleton_inj.mp (List.append_inj_right' same rfl))
  · intro none later
    rw [answers_append, none, List.map_append,
      answers_eq_alone client prodid now ((zonesAfter_eq_nil_iff client prodid now history).mp none)]
    rfl

end Runs

/-! ## Two runs -/

/-- Not every run is answered as alone: after a feed that defines a zone, one that leaves its observances
out is read. -/
theorem not_all_answers_alone :
    ¬ ∀ (client : Feed.Client) (prodid : String) (now : Time.Instant) (jobs : List Job),
      answers client prodid now [] jobs = jobs.map (Job.alone client prodid now) := by
  intro independent
  let noon : Time.Instant := ⟨⟨63729374400000000, by decide⟩⟩
  have plain : ∀ l ∈ Feed.customZone, Capital l.1.toList ∧ '\n' ∉ l.2.toList := by decide
  have known := Job.named_ofText .plain Output.defaultProdid noon
    (Feed.unmarked_written (Feed.plain_zoneFeed plain)) (Feed.named_customZone noon)
  have read : unescape "Custom".toList = "Custom".toList := rfl
  have differs := run_unfinishedZone_ne_alone .plain Output.defaultProdid noon read (by decide) known
    Feed.unlisted_custom
  exact answers_ne_alone _ _ _ _ _ differs (independent _ _ _ _)

end FeedSieve
