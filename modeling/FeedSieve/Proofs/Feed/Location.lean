import FeedSieve.Feed.Fetch
import FeedSieve.Proofs.Text.Case

/-!
# What a location stands for

The scheme of a location is looked for in its lowered form and cut off the location itself, by length. Lowering
may make a text longer, but the two line up for every text: the scheme is spelled in characters that only
ASCII letters are lowered to. So a location stands for another one exactly if it starts with the scheme that
calendars are advertised under, up to the case of ASCII letters. Main statement: `target_resolves`.
-/
namespace FeedSieve.Feed

/-- The location starts with the scheme that calendars are advertised under, up to the case of ASCII letters. -/
def Advertised (url : String) : Prop := (url.toList.take 9).map Char.toLower = "webcal://".toList

instance (url : String) : Decidable (Advertised url) := inferInstanceAs (Decidable (_ = _))

theorem own_of_mem_calendarScheme {c : Char} (member : c ∈ calendarScheme) : Text.Case.Own c := by
  have all : calendarScheme.all (fun c => decide (Text.Case.Own c)) = true := by decide
  exact of_decide_eq_true (List.all_eq_true.mp all c member)

theorem length_calendarScheme : calendarScheme.length = 9 := by decide

section Location

variable {url : String}

theorem prefix_iff_advertised : calendarScheme <+: url.toList.map Char.toLower ↔ Advertised url := by
  rw [List.prefix_iff_eq_take, length_calendarScheme, ← List.map_take, eq_comm]
  rfl

/-- The lowered location starts with the scheme exactly if the location is advertised. -/
theorem isPrefixOf_lower_iff :
    calendarScheme.isPrefixOf (Text.Case.lower url).toList = true ↔ Advertised url := by
  rw [List.isPrefixOf_iff_prefix, Text.Case.prefix_lower_iff fun _ => own_of_mem_calendarScheme,
    prefix_iff_advertised]

theorem target_of_advertised (advertised : Advertised url) :
    target url = String.ofList ("https://".toList ++ url.toList.drop 9) := by
  rw [target, if_pos (isPrefixOf_lower_iff.mpr advertised), length_calendarScheme]

theorem target_of_not_advertised (other : ¬ Advertised url) : target url = url := by
  rw [target, if_neg fun found => other (isPrefixOf_lower_iff.mp found)]

end Location

theorem not_advertised_secure (rest : List Char) :
    ¬ Advertised (String.ofList ("https://".toList ++ rest)) := by
  intro advertised
  rw [Advertised, String.toList_ofList] at advertised
  have first : ((("https://".toList ++ rest).take 9).map Char.toLower).head? = some 'h' := rfl
  rw [advertised] at first
  exact absurd first (by decide)

theorem not_advertised_target (url : String) : ¬ Advertised (target url) := by
  by_cases advertised : Advertised url
  · rw [target_of_advertised advertised]
    exact not_advertised_secure _
  · rwa [target_of_not_advertised advertised]

/-- A location that is advertised as a calendar's stands for the one with the secure scheme in place of its
first nine characters, and any other for itself. What a location stands for is not advertised, so it stands
for itself, and fetching the feed requests exactly this. -/
theorem target_resolves (url : String) :
    target url
      = (if Advertised url then String.ofList ("https://".toList ++ url.toList.drop 9) else url)
    ∧ ¬ Advertised (target url)
    ∧ target (target url) = target url
    ∧ ∀ client transport,
        (fetch client transport url).requests = [⟨target url, client.timeout, client.agent⟩] := by
  refine ⟨?_, not_advertised_target url, target_of_not_advertised (not_advertised_target url),
    fun _ _ => rfl⟩
  split
  · exact target_of_advertised ‹_›
  · exact target_of_not_advertised ‹_›

/-- The dotted capital I becomes two characters when it is lowered, and nothing is cut off for that. -/
example : target "WebCal://e/İ" = "https://e/İ" := by decide +kernel

end FeedSieve.Feed
