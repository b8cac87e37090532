import FeedSieve.ICalendar.Observance
import FeedSieve.Proofs.Feed.Document
import FeedSieve.Proofs.Feed.Fetch
import FeedSieve.Proofs.Text.Utf8

/-!
# Feeds with a byte-order mark

A byte-order mark is taken off in two places: from the bytes of a response, and from a text that is read as a
feed. A text without a mark of its own comes to the same with one more mark in front, in either place
(`mark_transparent`).
-/
namespace FeedSieve.Feed

def marked (text : String) : String := String.ofList (byteOrderMark :: text.toList)

def markBytes : List UInt8 := [0xEF, 0xBB, 0xBF]

theorem dropMark_marked (text : String) : dropMark (marked text).toList = text.toList := by
  rw [marked, String.toList_ofList]
  exact if_pos rfl

/-- The bytes of a mark in front of a body are no part of its text. -/
theorem bodyText_mark (text : String) : bodyText (markBytes ++ Text.Utf8.encode text.toList) = text := by
  have taken : Text.Utf8.dropMark (markBytes ++ Text.Utf8.encode text.toList)
      = Text.Utf8.encode text.toList := rfl
  rw [bodyText, taken, Text.Utf8.decode_encode, String.ofList_toList]

section Unmarked

variable {text : String} (unmarked : text.toList.head? ≠ some byteOrderMark)

include unmarked

/-- A body that encodes a text is read as the text. -/
theorem bodyText_encode : bodyText (Text.Utf8.encode text.toList) = text := by
  rw [bodyText, Text.Utf8.dropMark_encode unmarked, Text.Utf8.decode_encode, String.ofList_toList]

theorem parseCalendars_marked [ICalendar.ZoneMaker] (zones : ICalendar.Registry) :
    parseCalendars zones (marked text) = parseCalendars zones text := by
  rw [parseCalendars, parseCalendars, dropMark_marked, dropMark_of_unmarked unmarked]

theorem normalize_marked [Time.ZoneLibrary] [ICalendar.ZoneMaker] (zones : ICalendar.Registry)
    (now : Time.Instant) :
    normalize zones (marked text) now = normalize zones text now := by
  rw [normalize, normalize, parseCalendars_marked unmarked]

/-- A text that does not begin with a byte-order mark is fetched as it is, character by character, from a
response that tells of no error and holds its bytes in UTF-8, with or without those of a mark in front. It is
read as the same calendars and normalized to the same events, failures and reports with a mark in front as
without, whatever zones are known already. -/
theorem mark_transparent [Time.ZoneLibrary] [ICalendar.ZoneMaker] :
    (∀ (client : Client) (transport : Transport) (url : String) (status : Int),
      status < 400 ∨ 599 < status →
      ∀ body ∈ [Text.Utf8.encode text.toList, markBytes ++ Text.Utf8.encode text.toList],
        transport ⟨target url, client.timeout, client.agent⟩ = .response status body →
        (fetch client transport url).value = .ok text)
    ∧ (∀ zones, parseCalendars zones (marked text) = parseCalendars zones text)
    ∧ ∀ zones now, normalize zones (marked text) now = normalize zones text now := by
  refine ⟨?_, parseCalendars_marked unmarked, normalize_marked unmarked⟩
  intro client transport url status plain body written reply
  have read : bodyText body = text := by
    simp only [List.mem_cons, List.not_mem_nil, or_false] at written
    rcases written with rfl | rfl
    · exact bodyText_encode unmarked
    · exact bodyText_mark text
  have counts : (Reply.response status body).Gives url (.ok (bodyText body)) := .text body plain
  rw [read, ← reply] at counts
  exact Reply.text_eq_iff.mpr counts

end Unmarked

/-- A text of characters that take one, two, three and four bytes. -/
def widths : String := "aé€😀"

theorem mark_transparent_widths : widths.toList.head? ≠ some byteOrderMark
    ∧ (fetch .plain (fun _ => .response 200 (markBytes ++ Text.Utf8.encode widths.toList)) "https://e/x").value
      = .ok widths
    ∧ parseCalendars [] (marked widths) = parseCalendars [] widths := by
  have unmarked : widths.toList.head? ≠ some byteOrderMark := by decide
  obtain ⟨fetched, parsed, -⟩ := mark_transparent unmarked
  exact ⟨unmarked, fetched .plain _ "https://e/x" 200 (by decide) _ (by simp) rfl, parsed []⟩

end FeedSieve.Feed
