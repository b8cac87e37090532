import FeedSieve.ICalendar.Component
import FeedSieve.ICalendar.Lines

/-!
# Calendar documents

The lines of a document open and close components; what closes last of an outermost component is a
result. An event forgives lines and values that cannot be read, everything else does not. The zones that
components define are collected on the way, also when reading fails later. If a zone is defined after
something that may refer to it, the document is read once more with all zones known. A zone is looked up
under one identifier, and what the end of a zone closes is taken for one; where that fails, so does reading,
with a fault.
-/
namespace FeedSieve.ICalendar

inductive DocumentError where
  | line (text : List Char) (cause : LineError)
  | value (cause : DatumError)
  | strayEnd
  | strayProperty (name : String)
  /-- A definition gives no zone, for instance one without observances. -/
  | zone (message : String)
  /-- Reading came upon something that it does not answer for. -/
  | fault (cause : Fault)
  deriving DecidableEq, Repr

def DocumentError.message : DocumentError → String
  | .line text cause =>
    "Content line could not be parsed into parts: '" ++ String.ofList text ++ "': " ++ cause.message
  | .value cause => cause.message
  | .strayEnd => "END encountered without an accompanying BEGIN!"
  | .strayProperty name => "Property \"" ++ name ++ "\" does not have a parent component."
  | .zone message => message
  | .fault cause => cause.message

def DocumentError.ofDatum : DatumError → DocumentError
  | .zones => .fault severalZones
  | cause => .value cause

def DocumentError.ofDefect : ZoneDefect → DocumentError
  | .refused message => .zone message
  | .fault cause => .fault cause

def Component.zone [ZoneMaker] (c : Component) : Except DocumentError CustomZone :=
  if c.observances = [] then .error (.zone (ZoneMaker.hollow c))
  else (ZoneMaker.zone c).mapError .ofDefect

/-- How far a document is read: the open components, the innermost first, the closed outermost ones, and
the zones defined so far. -/
structure Progress where
  pending : List Component
  closed : List Component
  zones : Registry

namespace Progress

/-- Whether the innermost open component forgives what it cannot read. -/
def forgives (s : Progress) : Bool :=
  match s.pending with
  | c :: _ => c.name == "VEVENT"
  | [] => false

def close (s : Progress) : Except DocumentError (Progress × Component) :=
  match s.pending with
  | [] => .error .strayEnd
  | [c] => .ok ({ s with pending := [], closed := s.closed ++ [c] }, c)
  | c :: parent :: rest => .ok ({ s with pending := parent.addChild c :: rest }, c)

/-- Takes note of the zone a component defines. Several identifiers are no identifier, and only a zone can
tell of its observances. -/
def define [ZoneMaker] (s : Progress) (c : Component) : Except DocumentError Progress :=
  match c.identifiers with
  | [] => .ok s
  | [id] =>
    if (s.zones.named? (bareIdentifier id.text)).isSome then .ok s
    else if c.name ≠ "VTIMEZONE" then .error (.fault (.noAttribute c.kind "to_tz"))
    else do
      let zone ← c.zone
      return { s with zones := s.zones.define id.text zone }
  | _ => .error (.fault severalZones)

/-- Adds a property to the innermost open component. Comments outside all components are passed over. -/
def addProperty (s : Progress) (l : ContentLine) : Except DocumentError Progress :=
  match s.pending with
  | [] => if l.name = "X-COMMENT" then .ok s else .error (.strayProperty l.name)
  | c :: rest =>
    let (p, defect) := Property.ofLine s.zones l
    let s' := { s with pending := c.addProperty p :: rest }
    -- A property with a defect is kept like any other, unless the defect ends the reading.
    match defect with
    | none => .ok s'
    | some e =>
      if s.forgives then .ok s'
      else if "X-".toList.isPrefixOf l.name.toList then .ok s'
      else .error (.ofDatum e)

def step [ZoneMaker] (s : Progress) (line : List Char) : Except DocumentError Progress :=
  match ContentLine.parse line with
  | .error e => if s.forgives then .ok s else .error (.line line e)
  | .ok l =>
    if l.name = "BEGIN" then
      .ok { s with pending := ⟨Text.Case.upper l.value, [], []⟩ :: s.pending }
    else if l.name = "END" then do
      let (s, c) ← s.close
      -- The text of the line decides, whatever kind of component it closes.
      if l.value = "VTIMEZONE" then s.define c else .ok s
    else s.addProperty l

/-- Reads lines up to the first error. The zones defined until then are kept. -/
def run [ZoneMaker] (s : Progress) : List (List Char) → Registry × Except DocumentError (List Component)
  | [] => (s.zones, .ok s.closed)
  | line :: rest =>
    match s.step line with
    | .ok s => run s rest
    | .error e => (s.zones, .error e)

end Progress

/-- Whether a zone is defined after another component. -/
def definesLate (cs : List Component) : Bool :=
  ((cs.flatMap (·.children)).dropWhile (·.name == "VTIMEZONE")).any (·.name == "VTIMEZONE")

def readComponents [ZoneMaker] (zones : Registry) (text : List Char) :
    Registry × Except DocumentError (List Component) :=
  let ls := lines text
  match Progress.run ⟨[], [], zones⟩ ls with
  | (zones, .ok cs) =>
    -- The second reading starts with the zones that the first one has found.
    if definesLate cs then Progress.run ⟨[], [], zones⟩ ls else (zones, .ok cs)
  | failed => failed

end FeedSieve.ICalendar
