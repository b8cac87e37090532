import FeedSieve.ICalendar.Observance
import FeedSieve.Product
import FeedSieve.Service.Query
import FeedSieve.Sieve

/-!
# The service

The service answers for feeds in both formats, and for its own health. A refusal is answered with its
name, what it says and its status, and reported. A fault is reported too, and answered without saying
what it was. The last entry of every call tells how it was answered.
-/
namespace FeedSieve.Service

structure Call where
  method : String
  path : String
  query : String
  deriving DecidableEq, Repr

structure Answer where
  status : Nat
  mediaType : Option String
  body : String
  deriving DecidableEq, Repr

inductive Route where
  | feed (format : Output.Format)
  | health
  deriving DecidableEq, Repr

def routes : List (String × Route) :=
  [("/v1/json", .feed .json), ("/v1/ical", .feed .calendar), ("/health", .health)]

def route? (path : String) : Option Route := (routes.find? (·.1 == path)).map (·.2)

def dropSlashes (path : String) : String :=
  String.ofList (path.toList.reverse.dropWhile (· = '/')).reverse

/-- Whether a path leads somewhere without the slashes at its end. -/
def isRedirected (path : String) : Bool :=
  path.toList.getLast? = some '/' && (route? (dropSlashes path)).isSome

/-! ## Answers -/

def Answer.json (status : Nat) (fields : List (String × String)) : Answer :=
  ⟨status, some "application/json",
    (Text.Json.object (fields.map fun f => (f.1, .string f.2))).render⟩

def Answer.error (status : Nat) (name message : String) : Answer :=
  .json status [("error", name), ("message", message)]

/-- The answer to a call that asks for something else than the service offers. -/
def Answer.detail (status : Nat) (detail : String) : Answer := .json status [("detail", detail)]

def Answer.health : Answer :=
  .json 200 [("status", "healthy"), ("service", Product.name), ("version", Product.version)]

def Answer.noUrl : Answer := .error 400 "BadRequest" "query.url: Field required"

def Answer.failure : Failure → Answer
  | .refused cause => .error cause.status cause.name cause.message
  -- A fault is not told to the caller.
  | .fault _ => .error 500 "InternalServerError" "internal server error"

/-- What is reported of a failure. -/
def failureEntry (path : String) : Failure → Log.Entry
  | .refused cause =>
    ⟨if cause.status < 500 then .warning else .error, "request_failed",
      [("path", .string path), ("error", .string cause.name), ("message", .string cause.message)]⟩
  | .fault _ => ⟨.error, "unhandled_error", [("path", .string path)]⟩

def answerEntry (call : Call) (answer : Answer) : Log.Entry :=
  ⟨.info, "request", [("method", .string call.method), ("path", .string call.path),
    ("status", .int answer.status)]⟩

/-! ## Calls -/

def answerFeed [Time.ZoneLibrary] [ICalendar.ZoneMaker] (s : Sieve) (zones : ICalendar.Registry)
    (clock : Time.Instant) (format : Output.Format) (call : Call) :
    ICalendar.Registry × Feed.Exchange Answer :=
  match parameter? call.query "url" with
  | none => (zones, ⟨[], [], .noUrl⟩)
  | some url =>
    let raw := parameter? call.query "filter"
    let (zones, result) := s.sieve zones url raw format clock.wholeSecond
    match result.value with
    | .ok body =>
      (zones, { result with value := ⟨200, some format.mediaType, body⟩ })
    | .error cause =>
      (zones, ⟨result.requests, result.entries ++ [failureEntry call.path cause], .failure cause⟩)

/-- The answer to a call, before it is reported. -/
def dispatch [Time.ZoneLibrary] [ICalendar.ZoneMaker] (s : Sieve) (zones : ICalendar.Registry)
    (clock : Time.Instant) (call : Call) :
    ICalendar.Registry × Feed.Exchange Answer :=
  match route? call.path with
  | some route =>
    if call.method ≠ "GET" then (zones, ⟨[], [], .detail 405 "Method Not Allowed"⟩)
    else match route with
      | .health => (zones, ⟨[], [], .health⟩)
      | .feed format => answerFeed s zones clock format call
  | none =>
    if isRedirected call.path then (zones, ⟨[], [], ⟨307, none, ""⟩⟩)
    else (zones, ⟨[], [], .detail 404 "Not Found"⟩)

/-- Answers a call at a time of the clock. -/
def answer [Time.ZoneLibrary] [ICalendar.ZoneMaker] (s : Sieve) (zones : ICalendar.Registry)
    (clock : Time.Instant) (call : Call) :
    ICalendar.Registry × Feed.Exchange Answer :=
  let (zones, result) := dispatch s zones clock call
  (zones, { result with entries := result.entries ++ [answerEntry call result.value] })

end FeedSieve.Service
