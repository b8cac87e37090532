import FeedSieve.Fault
import FeedSieve.Feed.Location
import FeedSieve.Log
import FeedSieve.Settings.Config
import FeedSieve.Text.Utf8

/-!
# Fetching feeds

A feed is fetched with one request. An answer counts unless its status tells of an error, and its body is
read as UTF-8 without a byte-order mark. What goes wrong on the way is a timeout, an announced failure or
one that nothing announces.
-/
namespace FeedSieve.Feed

structure Request where
  url : String
  timeout : Text.Binary64
  agent : String
  deriving DecidableEq, Repr

inductive Reply where
  | response (status : Int) (body : List UInt8)
  | timeout
  | failure (message : String)
  /-- A failure of a kind that the transport does not announce. -/
  | breakdown (kind message : String)
  deriving DecidableEq, Repr

abbrev Transport := Request → Reply

/-- The media type that requests ask for. -/
def accepted : String := "text/calendar"

/-- A result, with the requests made and the entries written on the way. -/
structure Exchange (α : Type) where
  requests : List Request
  entries : List Log.Entry
  value : α

inductive FetchError where
  | timeout (url : String)
  | status (code : Int) (url : String)
  | network (url cause : String)
  deriving DecidableEq, Repr

def FetchError.message : FetchError → String
  | .timeout url => "Timed out fetching " ++ url
  | .status code url => "Upstream returned " ++ toString code ++ " for " ++ url
  | .network url cause => "Network error fetching " ++ url ++ ": " ++ cause

inductive FetchFailure where
  | refused (cause : FetchError)
  | fault (cause : Fault)
  deriving DecidableEq, Repr

/-- What requests say of the client, and how long it waits. -/
structure Client where
  timeout : Text.Binary64
  agent : String
  deriving DecidableEq, Repr

def Client.plain : Client := ⟨Settings.defaults.timeout, Product.name⟩

def Client.ofConfig (c : Settings.Config) : Client := ⟨c.timeout, c.agent⟩

def isErrorStatus (status : Int) : Bool := decide (400 ≤ status ∧ status < 600)

def bodyText (body : List UInt8) : String :=
  String.ofList (Text.Utf8.decode (Text.Utf8.dropMark body))

def Reply.text (url : String) : Reply → Except FetchFailure String
  | .response status body =>
    if isErrorStatus status then .error (.refused (.status status url)) else .ok (bodyText body)
  | .timeout => .error (.refused (.timeout url))
  | .failure message => .error (.refused (.network url message))
  | .breakdown kind message => .error (.fault (.transport kind message))

/-- What is reported of a reply that counts. -/
def Reply.entries (url : String) : Reply → List Log.Entry
  | .response status body =>
    if isErrorStatus status then []
    else [⟨.debug, "fetched_feed", [("url", .string url), ("size", .int body.length)]⟩]
  | _ => []

def fetch (client : Client) (transport : Transport) (url : String) :
    Exchange (Except FetchFailure String) :=
  let request : Request := ⟨target url, client.timeout, client.agent⟩
  let reply := transport request
  { requests := [request]
    entries := ⟨.debug, "fetching_feed", [("url", .string request.url)]⟩ :: reply.entries request.url
    value := reply.text url }

end FeedSieve.Feed
