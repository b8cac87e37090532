import FeedSieve.Proofs.ICalendar.Folding
import FeedSieve.Proofs.Output.Calendar

/-!
# The layout of a written calendar

The lines of a written calendar are the same whatever its texts are, but for what stands behind the names
of the producer, the title and the identifier. No text adds a line, takes one away or moves one
(`renderCalendar_layout`).
-/
namespace FeedSieve.Output

open ICalendar Text

/-- The bytes of a written calendar are well-formed rows of at most 75 bytes, each with a line end and
none in it. Joined and cut at the line ends, they are the head of the calendar with the zone of UTC, eight
lines for each event in order, and the end of the calendar. -/
theorem renderCalendar_layout (prodid : String) (events : List Event) :
    let body := (renderCalendar prodid events).toList
    Utf8.decode? (Utf8.encode body) = .ok body
    ∧ (∃ rows : List (List UInt8), Utf8.encode body = rows.flatMap (· ++ [13, 10])
        ∧ ∀ row ∈ rows, row.length ≤ 75 ∧ 13 ∉ row ∧ 10 ∉ row)
    ∧ cutEnds (joined body) =
      ["BEGIN:VCALENDAR".toList, "VERSION:2.0".toList, textLine "PRODID" prodid,
        "CALSCALE:GREGORIAN".toList, "METHOD:PUBLISH".toList,
        "BEGIN:VTIMEZONE".toList, "TZID:UTC".toList, "BEGIN:STANDARD".toList,
        "DTSTART:19700329T020000".toList, "TZNAME:UTC".toList, "TZOFFSETFROM:+0000".toList,
        "TZOFFSETTO:+0000".toList, "END:STANDARD".toList, "END:VTIMEZONE".toList]
      ++ (events.flatMap fun e => ["BEGIN:VEVENT".toList, textLine "SUMMARY" e.summary,
        instantLine "DTSTART" e.start, instantLine "DTEND" e.finish, instantLine "DTSTAMP" e.stamp,
        textLine "UID" e.uid, instantLine "CREATED" e.created, "END:VEVENT".toList])
      ++ ["END:VCALENDAR".toList, []] := by
  have bare := bare_calendarLines prodid events
  have text : (renderCalendar prodid events).toList = (calendarLines prodid events).flatMap fold := by
    rw [renderCalendar, String.toList_ofList]
  refine ⟨Utf8.decode?_encode _, ?_, ?_⟩
  · rw [text]
    exact encode_folded bare
  · rw [text, cutEnds_joined bare, calendarLines, List.append_assoc]
    rfl

end FeedSieve.Output
