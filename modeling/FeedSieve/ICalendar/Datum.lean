import FeedSieve.ICalendar.Registry
import FeedSieve.Text.Binary64

/-!
# Typed values

The values of date properties and of a few others have a form. That of a date value is told by its text:
a duration starts with a `P` after an optional sign, a period has a slash, and otherwise the length
decides between a date-time, a date and a time. Numbers in a date-time are read generously, a date has
plain digits.
-/
namespace FeedSieve.ICalendar

/-- A value that a date property may hold. -/
inductive Datum where
  | moment (m : Time.Moment)
  | duration (seconds : Int)
  /-- A time of day, a period or another value without a date; `empty` says that it counts as nothing. -/
  | other (empty : Bool)
  deriving DecidableEq, Repr

inductive DatumError where
  | form (text : String)
  | dateTime (text : String)
  | date (text : String)
  | time (text : String)
  | duration (text : String)
  | longDuration (text : String)
  | period (text : String)
  | integer (text : String)
  | position (text : String)
  | utcOffset (text : String)
  | largeOffset (text : String)
  | digits (count : Nat)
  | zones
  deriving DecidableEq, Repr

/-- Several identifiers of a zone stand where one is looked up. -/
def severalZones : Fault := .noAttribute "list" "strip"

def DatumError.message : DatumError → String
  | .form text => "Expected datetime, date, or time. Got: '" ++ text ++ "'"
  | .dateTime text => "Wrong datetime format: " ++ text
  | .date text => "Wrong date format " ++ text
  | .time text => "Expected time, got: " ++ text
  | .duration text => "Invalid iCalendar duration: " ++ text
  | .longDuration text => "Impractical iCalendar duration: " ++ text
  | .period text => "Expected period format, got: " ++ text
  | .integer text => "Expected int, got: " ++ text
  | .position text => "Expected 'float;float' , got: " ++ text
  | .utcOffset text => "Expected utc offset, got: " ++ text
  | .largeOffset text => "Offset must be less than 24 hours, was " ++ text
  | .digits count => Text.Number.limitMessage count
  | .zones => severalZones.message

/-- The zone in which a date property is read: none, a known one, or a choice of several, which is an
error. -/
inductive Setting where
  | unset
  | within (clock : Clock)
  | conflicting

/-! ## Parts of a text -/

def afterLast (mark : Char) (s : List Char) : List Char :=
  (s.reverse.takeWhile (· ≠ mark)).reverse

def slice (s : List Char) (start count : Nat) : List Char := (s.drop start).take count

/-- The natural number some characters of a text stand for, read generously. -/
def natAt? (s : List Char) (start count : Nat) : Option Nat :=
  match Text.Number.int? (String.ofList (slice s start count)) with
  | .ok (.ofNat n) => some n
  | _ => none

/-! ## Date-times, dates and times -/

/-- The reading a date-time text shows, whatever follows its seconds. -/
def readWall? (s : List Char) : Option Time.Wall := do
  if s[8]? ≠ some 'T' then none
  let year ← natAt? s 0 4
  let month ← natAt? s 4 2
  let day ← natAt? s 6 2
  let hour ← natAt? s 9 2
  let minute ← natAt? s 11 2
  let second ← natAt? s 13 2
  Time.Fields.wall? ⟨⟨year, month, day⟩, hour, minute, second, 0⟩

/-- Reads a date-time. In a known zone nothing after the seconds counts; elsewhere a `Z` means UTC. -/
def readDateTime (setting : Setting) (s : List Char) : Except DatumError Time.Moment :=
  let s := afterLast ':' s
  let moment? : Option Time.Moment := do
    let w ← readWall? s
    match setting with
    | .conflicting => none
    | .within clock => return clock.moment w
    | .unset =>
      if s.length ≤ 15 then return .floating w
      else if s[15]? = some 'Z' then return .anchored w 0
      else none
  match moment? with
  | some m => .ok m
  | none => .error (.dateTime (String.ofList s))

def readDay? (s : List Char) : Option Time.Date :=
  if s.length = 8 ∧ s.all Char.isDigit then do
    let d : Time.Date := ⟨← natAt? s 0 4, ← natAt? s 4 2, ← natAt? s 6 2⟩
    if d.Valid then some d else none
  else none

/-- Reads a date. In a known zone it is the midnight there. -/
def readDate (setting : Setting) (s : List Char) : Except DatumError Time.Moment :=
  match readDay? s with
  | none => .error (.date (String.ofList s))
  | some d =>
    match setting with
    | .conflicting => .error .zones
    | .unset => .ok (.date d)
    | .within clock =>
      match d.midnight? with
      | some w => .ok (clock.moment w)
      | none => .error (.date (String.ofList s))

/-- Reads a time of day: six characters, then perhaps a `Z`. -/
def readTime (s : List Char) : Except DatumError Datum :=
  let s := afterLast ':' s
  let s := if s.getLast? = some 'Z' then s.dropLast else s
  let valid : Option Bool := do
    let hour ← natAt? s 0 2
    let minute ← natAt? s 2 2
    let second ← natAt? s 4 2
    return s.length == 6 && hour < 24 && minute < 60 && second < 60
  if valid = some true then .ok (.other false) else .error (.time (String.ofList s))

/-! ## Durations -/

/-- Digits of any script in front, with a unit after them. The digit values, and what follows the unit;
without the unit nothing is read. -/
def takeUnit (unit : Char) (s : List Char) : List Nat × List Char :=
  let digits := s.takeWhile Text.Class.isDigit
  match digits, s.drop digits.length with
  | [], _ => ([], s)
  | _, c :: rest => if c = unit then (digits.filterMap Text.Class.digitValue?, rest) else ([], s)
  | _, [] => ([], s)

/-- The units of a duration in order: before the `T`, and after it. -/
def durationUnits (s : List Char) : Option (List (List Nat × Nat)) :=
  let (weeks, s) := takeUnit 'W' s
  let (days, s) := takeUnit 'D' s
  let dated := [(weeks, 604800), (days, 86400)]
  match s with
  | [] => some dated
  | 'T' :: s =>
    let (hours, s) := takeUnit 'H' s
    let (minutes, s) := takeUnit 'M' s
    let (seconds, s) := takeUnit 'S' s
    if s = [] then some (dated ++ [(hours, 3600), (minutes, 60), (seconds, 1)]) else none
  | _ => none

/-- The greatest number of days in a duration. -/
def maxDays : Nat := 999999999

/-- Reads a duration, in seconds. -/
def readDuration (s : List Char) : Except DatumError Int :=
  let text := String.ofList s
  let (negative, body) := Text.Number.splitSign s
  match body with
  | 'P' :: body =>
    match durationUnits body with
    | none => .error (.duration text)
    | some units =>
      match units.find? fun u => Text.Number.digitLimit < u.1.length with
      | some (digits, _) => .error (.digits digits.length)
      | none =>
        let total := units.foldl (fun n u => n + Text.Number.ofDigits u.1 * u.2) 0
        let signed : Int := if negative then -total else total
        if total / 86400 ≤ maxDays ∧ -(maxDays : Int) ≤ signed / 86400 then .ok signed
        else .error (.longDuration text)
  | _ => .error (.duration text)

/-! ## Date values -/

def startsDuration (s : List Char) : Bool :=
  match Text.Number.splitSign s with
  | (_, c :: _) => c == 'P' || c == 'p'
  | (_, []) => false

def readSimple (setting : Setting) (s : List Char) : Except DatumError Datum :=
  if startsDuration s then (readDuration s).map .duration
  else if s.length = 15 ∨ s.length = 16 then (readDateTime setting s).map .moment
  else if s.length = 8 then (readDate setting s).map .moment
  else if s.length = 6 ∨ s.length = 7 then readTime s
  else .error (.form (String.ofList s))

def readPeriod (setting : Setting) (s : List Char) : Except DatumError Datum :=
  match Text.splitAt '/' s with
  | [start, stop] =>
    match readSimple setting start, readSimple setting stop with
    | .ok _, .ok _ => .ok (.other false)
    | _, _ => .error (.period (String.ofList s))
  | _ => .error (.period (String.ofList s))

def readDatum (setting : Setting) (s : List Char) : Except DatumError Datum :=
  if ¬ startsDuration s ∧ '/' ∈ s then readPeriod setting s else readSimple setting s

/-! ## Other values -/

def readInteger (s : List Char) : Except DatumError Int :=
  match Text.Number.int? (String.ofList s) with
  | .ok n => .ok n
  | .error _ => .error (.integer (String.ofList s))

/-- Checks a position on Earth: two numbers with a semicolon between them. -/
def checkPosition (s : List Char) : Except DatumError Unit :=
  match Text.splitAt ';' s with
  | [latitude, longitude] =>
    if (Text.Binary64.ofText? (String.ofList latitude)).isSome
      ∧ (Text.Binary64.ofText? (String.ofList longitude)).isSome then .ok ()
    else .error (.position (String.ofList s))
  | _ => .error (.position (String.ofList s))

/-- Reads an offset from UTC, in seconds: a sign, hours, minutes and perhaps seconds. -/
def readUtcOffset (s : List Char) : Except DatumError Int :=
  let offset? : Option Int := do
    -- The place of the sign is passed over: whatever is no minus there means ahead of UTC.
    let hours ← natAt? s 1 2
    let minutes ← natAt? s 3 2
    let seconds ← if slice s 5 2 = [] then some 0 else natAt? s 5 2
    return (hours * 3600 + minutes * 60 + seconds : Nat)
  match offset? with
  | none => .error (.utcOffset (String.ofList s))
  | some n =>
    if 86400 ≤ n then .error (.largeOffset (String.ofList s))
    else .ok (if s.head? = some '-' then -n else n)

end FeedSieve.ICalendar
