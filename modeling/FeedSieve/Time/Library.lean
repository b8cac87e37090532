import FeedSieve.Fault

/-!
# What looking up zones leaves open

Versions of the library that looks zones up differ where the days around a reading reach outside the years
1 to 9999, and where several names stand for one zone. `ZoneLibrary` takes both as given, so that what is
proved of readings holds for each version.
-/
namespace FeedSieve.Time

class ZoneLibrary where
  /-- Whether a reading is refused when the day before it or the day after it lies outside the years 1 to
  9999. -/
  strict : Bool
  /-- What ends a lookup of several names. Where nothing does, they are a name that is not known. -/
  several : Option Fault

/-- The version in use refuses no reading for the days around it, and takes several names for an unknown
one. -/
instance (priority := low) ZoneLibrary.current : ZoneLibrary := ⟨false, none⟩

end FeedSieve.Time
