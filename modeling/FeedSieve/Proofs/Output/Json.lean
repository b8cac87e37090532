import FeedSieve.Output.Json
import FeedSieve.Proofs.Text.Json
import FeedSieve.Proofs.Text.Utf8

/-!
# JSON answers

The JSON text of events stands for one value: an array that holds the events in their order, whatever
their texts are (`renderJson_denotes`).
-/
namespace FeedSieve.Output

open Text

theorem faithful_eventJson (e : Event) : (eventJson e).Faithful := by
  refine Json.faithful_object fun field member => ?_
  simp only [List.mem_cons, List.not_mem_nil, or_false] at member
  rcases member with rfl | rfl | rfl | rfl | rfl | rfl <;> exact Json.faithful_string _

theorem faithful_events (events : List Event) : (Json.array (events.map eventJson)).Faithful := by
  refine Json.faithful_array fun v member => ?_
  obtain ⟨e, -, rfl⟩ := List.mem_map.mp member
  exact faithful_eventJson e

theorem visible_eventJson (e : Event) : Json.Visible (eventJson e).write := by
  refine Json.visible_object fun field member => ?_
  simp only [List.mem_cons, List.not_mem_nil, or_false] at member
  rcases member with rfl | rfl | rfl | rfl | rfl | rfl <;>
    (rw [Json.write]; exact Json.visible_writeText _)

theorem visible_renderJson (events : List Event) : Json.Visible (renderJson events).toList := by
  rw [renderJson, Json.render, String.toList_ofList]
  refine Json.visible_array fun v member => ?_
  obtain ⟨e, -, rfl⟩ := List.mem_map.mp member
  exact visible_eventJson e

/-- The JSON text of events is well-formed as bytes, holds no control character, and stands for exactly
one value: the array of one object for each event in order, with the event's own texts and the
timestamps of its instants under the six names. -/
theorem renderJson_denotes (events : List Event) :
    Utf8.decode? (Utf8.encode (renderJson events).toList) = .ok (renderJson events).toList
    ∧ (∀ c ∈ (renderJson events).toList, 0x20 ≤ c.toNat)
    ∧ ∀ v, Json.Denotes (renderJson events).toList v ↔ v = .array (events.map fun e => .object [
        ("uid", .string e.uid), ("summary", .string e.summary),
        ("stamp", .string e.stamp.timestamp), ("created", .string e.created.timestamp),
        ("start", .string e.start.timestamp), ("end", .string e.finish.timestamp)]) := by
  refine ⟨Utf8.decode?_encode _, visible_renderJson events, fun v => ?_⟩
  rw [renderJson, Json.render, String.toList_ofList]
  exact Json.denotes_write (faithful_events events) v

end FeedSieve.Output
