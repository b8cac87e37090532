import FeedSieve.Text.Replace
import FeedSieve.Time.Zone.Africa
import FeedSieve.Time.Zone.Alias
import FeedSieve.Time.Zone.America
import FeedSieve.Time.Zone.Asia
import FeedSieve.Time.Zone.Europe
import FeedSieve.Time.Zone.Fixed
import FeedSieve.Time.Zone.Ocean
import FeedSieve.Time.Zone.Windows

/-!
# The directory of zones

Looks zones up by name: exactly, as calendars do, or in any case, as settings by people do. Some names are
aliases, and calendars written on other systems use names of their own.
-/
namespace FeedSieve.Time.Zone

def rows : List Source := africa ++ america ++ asia ++ europe ++ fixed ++ ocean

/-- The zone with exactly this name or alias. -/
def find? (name : String) : Option Zone :=
  let target := ((aliases.find? (·.1 == name)).map (·.2)).getD name
  (rows.find? (·.name == target)).map Source.zone

def names : List String := rows.map (·.name) ++ aliases.map (·.1)

/-- The name in the directory that equals a name up to case, where `_plus_` and `_minus_` stand for the
signs. Every name in the directory is ASCII, so no other text is found. -/
def canonicalName? (name : String) : Option String :=
  let sought := Text.replaceAll "_minus_".toList ['-'] (Text.replaceAll "_plus_".toList ['+'] name.toList)
  if sought.all (·.toNat < 128) then
    names.find? fun n => n.toList.map Char.toLower == sought.map Char.toLower
  else none

end FeedSieve.Time.Zone
