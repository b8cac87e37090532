import FeedSieve.Text.Case

/-!
# Feed locations

A feed is named by a URL. The `webcal` scheme, in any case, stands for `https`; every other URL names
what it says.
-/
namespace FeedSieve.Feed

/-- The scheme that calendars are advertised under. -/
def calendarScheme : List Char := "webcal://".toList

/-- The URL that is requested for a feed. -/
def target (url : String) : String :=
  if calendarScheme.isPrefixOf (Text.Case.lower url).toList then
    String.ofList ("https://".toList ++ url.toList.drop calendarScheme.length)
  else url

end FeedSieve.Feed
