import FeedSieve.Time.Moment

/-!
# The zones that a calendar refers to

A calendar refers to listed zones and to those that calendars define. `Clock` is a zone of either origin, and
`Registry.clock?` finds it under the identifiers that calendars use.
-/
namespace FeedSieve.ICalendar

/-- A zone that a calendar defines: how its clock is ahead of UTC when it shows a reading, in seconds, or
why it fails to tell. -/
structure CustomZone where
  offset : Time.Wall → Except Fault Int

inductive Clock where
  | listed (zone : Time.Zone)
  | custom (zone : CustomZone)

/-- The seconds by which the clock is ahead of UTC when it shows a reading. -/
def Clock.offset (c : Clock) (w : Time.Wall) : Except Fault Int :=
  match c with
  | .listed zone => .ok (zone.exactOffset w)
  | .custom zone => zone.offset w

def Clock.moment (c : Clock) (w : Time.Wall) : Time.Moment :=
  match c.offset w with
  | .ok offset => .anchored w offset
  | .error cause => .adrift w cause

/-! ## Identifiers -/

/-- The zones that calendars have defined so far, by identifier. -/
abbrev Registry := List (String × CustomZone)

/-- An identifier without slashes around it. -/
def bareIdentifier (id : String) : String :=
  let isSlash := fun c : Char => c == '/'
  String.ofList ((id.toList.dropWhile isSlash).reverse.dropWhile isSlash).reverse

/-- The zone under exactly this identifier: one that a calendar has defined, or a listed one. -/
def Registry.named? (r : Registry) (id : String) : Option Clock :=
  match r.find? (·.1 == id) with
  | some (_, zone) => some (.custom zone)
  | none => (Time.Zone.find? id).map .listed

/-- The ends of a path, the longest first. -/
def pathEnds (s : List Char) : List (List Char) :=
  s :: (match s with
    | [] => []
    | c :: rest =>
      let later := pathEnds rest
      if c = '/' then later else later.drop 1)

/-- The zone an identifier refers to: without the slashes around it, by its Windows name, or, when a slash
stands in front, by the ends of its path. -/
def Registry.clock? (r : Registry) (id : String) : Option Clock :=
  let bare := bareIdentifier id
  let windows := (Time.Zone.windowsNames.find? (·.1 == bare)).map (·.2)
  let ends := if id.toList.head? = some '/' then (pathEnds bare.toList).map String.ofList else []
  (bare :: windows.toList ++ ends).findSome? r.named?

/-- Adds a zone, unless the identifier is listed or already defined. -/
def Registry.define (r : Registry) (id : String) (zone : CustomZone) : Registry :=
  let bare := bareIdentifier id
  if (r.named? bare).isSome then r else r ++ [(bare, zone)]

end FeedSieve.ICalendar
