import FeedSieve.Feed.Fetch

/-!
# What fetching a feed comes to

One request is made, and what comes back for it decides alone. A reply is refused if the transport announces
a failure or if the status tells of an error; any other response counts, whatever its status. So a status
outside 200 to 299 that tells of no error counts as well, as if it came with a feed. Main statement:
`fetch_outcome`.
-/
namespace FeedSieve.Feed

namespace Reply

/-- What a reply to the request for a feed gives. -/
inductive Gives (url : String) : Reply → Except FetchFailure String → Prop where
  | timeout : Gives url .timeout (.error (.refused (.timeout url)))
  | failure (message : String) : Gives url (.failure message) (.error (.refused (.network url message)))
  | refused {status : Int} (body : List UInt8) (low : 400 ≤ status) (high : status ≤ 599) :
      Gives url (.response status body) (.error (.refused (.status status url)))
  | text {status : Int} (body : List UInt8) (plain : status < 400 ∨ 599 < status) :
      Gives url (.response status body) (.ok (bodyText body))
  | breakdown (kind message : String) :
      Gives url (.breakdown kind message) (.error (.fault (.unannounced kind message)))

/-- The reply is no success: the transport announces a failure, or the status is outside 200 to 299. -/
inductive Unsuccessful : Reply → Prop where
  | timeout : Unsuccessful .timeout
  | failure (message : String) : Unsuccessful (.failure message)
  | status {status : Int} (body : List UInt8) (outside : status < 200 ∨ 299 < status) :
      Unsuccessful (.response status body)

/-- The reply has a status that tells neither of success nor of an error. -/
inductive Unsettled : Reply → Prop where
  | status {status : Int} (body : List UInt8) (outside : status < 200 ∨ 299 < status)
      (plain : status < 400 ∨ 599 < status) : Unsettled (.response status body)

variable {url : String} {reply : Reply} {outcome : Except FetchFailure String}

theorem Unsettled.unsuccessful (h : reply.Unsettled) : reply.Unsuccessful := by
  cases h with
  | status body outside => exact .status body outside

theorem gives_text (url : String) (reply : Reply) : reply.Gives url (reply.text url) := by
  cases reply with
  | timeout => exact .timeout
  | failure message => exact .failure message
  | breakdown kind message => exact .breakdown kind message
  | response status body =>
    simp only [Reply.text, isErrorStatus, decide_eq_true_eq]
    split
    · rename_i error
      exact .refused body error.1 (by omega)
    · exact .text body (by omega)

/-- A reply gives one thing only. -/
theorem Gives.unique {outcome' : Except FetchFailure String} (h : reply.Gives url outcome)
    (h' : reply.Gives url outcome') : outcome = outcome' := by
  cases h <;> cases h' <;> first | rfl | omega

theorem text_eq_iff : reply.text url = outcome ↔ reply.Gives url outcome := by
  constructor
  · rintro rfl
    exact gives_text url reply
  · intro gives
    exact (gives_text url reply).unique gives

/-- What is no success is refused, unless its status tells of no error either. -/
theorem exists_refused_iff : (∃ e, reply.Gives url (.error (.refused e)))
    ↔ reply.Unsuccessful ∧ ¬ reply.Unsettled := by
  constructor
  · rintro ⟨e, refused⟩
    cases refused with
    | timeout => exact ⟨.timeout, by rintro ⟨⟩⟩
    | failure message => exact ⟨.failure message, by rintro ⟨⟩⟩
    | refused body low high =>
      refine ⟨.status body (by omega), ?_⟩
      rintro ⟨-, -, plain⟩
      omega
  · rintro ⟨unsuccessful, settled⟩
    cases unsuccessful with
    | timeout => exact ⟨_, .timeout⟩
    | failure message => exact ⟨_, .failure message⟩
    | @status status body outside =>
      have error : ¬ (status < 400 ∨ 599 < status) := fun plain => settled (.status body outside plain)
      exact ⟨_, .refused body (by omega) (by omega)⟩

end Reply

/-- To fetch a feed is to make one request, at the location that the URL stands for and with the timeout and
the agent of the client, which are those of the settings that describe it. Fetching comes to what the reply
gives: the refusal of a failure that the transport announces or of a status from 400 to 599, the decoded body
of a response with any other status, or a failure that nothing announces. So to be refused is to be no success,
exactly if the reply is not a response with a status that tells neither of success nor of an error. -/
theorem fetch_outcome (client : Client) (transport : Transport) (url : String) :
    let result := fetch client transport url
    let reply := transport ⟨target url, client.timeout, client.agent⟩
    result.requests = [⟨target url, client.timeout, client.agent⟩]
    ∧ (∀ c : Settings.Config,
        (fetch (.ofConfig c) transport url).requests = [⟨target url, c.timeout, c.agent⟩])
    ∧ (∀ outcome, result.value = outcome ↔ reply.Gives url outcome)
    ∧ (((∃ e, result.value = .error (.refused e)) ↔ reply.Unsuccessful) ↔ ¬ reply.Unsettled) := by
  intro result reply
  have gives (outcome : Except FetchFailure String) : result.value = outcome ↔ reply.Gives url outcome :=
    Reply.text_eq_iff
  have refused : (∃ e, result.value = .error (.refused e)) ↔ ∃ e, reply.Gives url (.error (.refused e)) :=
    exists_congr fun e => gives _
  refine ⟨rfl, fun _ => rfl, gives, ?_⟩
  rw [refused, Reply.exists_refused_iff]
  constructor
  · intro met unsettled
    exact (met.mpr unsettled.unsuccessful).2 unsettled
  · intro settled
    exact and_iff_left settled

/-- Not everything that is no success is refused: the body of a response of status 304 is taken for a feed. -/
theorem not_all_unsuccessful_refused : ¬ ∀ (client : Client) (transport : Transport) (url : String),
    (∃ e, (fetch client transport url).value = .error (.refused e))
      ↔ (transport ⟨target url, client.timeout, client.agent⟩).Unsuccessful := by
  intro all
  let body := Text.Utf8.encode "abc".toList
  obtain ⟨e, refused⟩ := (all .plain (fun _ => .response 304 body) "https://e/x").mpr
    (.status body (by decide))
  have counts : (fetch .plain (fun _ => .response 304 body) "https://e/x").value = .ok (bodyText body) := rfl
  rw [counts] at refused
  cases refused

end FeedSieve.Feed
