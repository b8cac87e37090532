import FeedSieve.Settings.Toml.Scan
import FeedSieve.Value

/-!
# Dates, times and numbers of a settings file

The longest form in front of a text is read; what follows it is left. An integer may be decimal,
hexadecimal, octal or binary, and single underscores may stand between digits.
-/
namespace FeedSieve.Settings.Toml

def decimalDigit? (c : Char) : Option Nat :=
  if '0' ≤ c ∧ c ≤ '9' then some (c.toNat - 48) else none

/-- Reads a number of exactly so many decimal digits. -/
def fixedDigits : (count : Nat) → (read : Nat) → List Char → Option (Nat × List Char)
  | 0, n, s => some (n, s)
  | _ + 1, _, [] => none
  | count + 1, n, c :: rest => do fixedDigits count (n * 10 + (← decimalDigit? c)) rest

/-- Reads a number of two digits within bounds. -/
def twoDigits (low high : Nat) (s : List Char) : Option (Nat × List Char) := do
  let (n, rest) ← fixedDigits 2 0 s
  if low ≤ n ∧ n ≤ high then return (n, rest) else none

/-- Drops one character, which must be there. -/
def mark? (c : Char) : List Char → Option (List Char)
  | d :: rest => if c = d then some rest else none
  | [] => none

/-! ## Dates and times -/

/-- Reads the digits of a fraction of a second. Six of them count. -/
def fraction (s : List Char) : Nat × List Char :=
  match s with
  | '.' :: rest =>
    let digits := rest.takeWhile Char.isDigit
    if digits = [] then (0, s)
    else
      let kept := (digits.take 6).filterMap decimalDigit?
      (Text.Number.ofDigits kept * Nat.pow 10 (6 - kept.length), rest.dropWhile Char.isDigit)
  | s => (0, s)

def clockTime? (s : List Char) : Option (ClockTime × List Char) := do
  let (hour, rest) ← twoDigits 0 23 s
  let (minute, rest) ← twoDigits 0 59 (← mark? ':' rest)
  let (second, rest) ← twoDigits 0 59 (← mark? ':' rest)
  let (microsecond, rest) := fraction rest
  return (⟨hour, minute, second, microsecond⟩, rest)

/-- Reads the hours and minutes of an offset. -/
def offsetMinutes? (s : List Char) : Option (Nat × List Char) := do
  let (hours, rest) ← twoDigits 0 23 s
  let (minutes, rest) ← twoDigits 0 59 (← mark? ':' rest)
  return (hours * 60 + minutes, rest)

def offset (s : List Char) : Option Int × List Char :=
  match s with
  | [] => (none, [])
  | c :: rest =>
    if c = 'Z' ∨ c = 'z' then (some 0, rest)
    else if c = '+' ∨ c = '-' then
      match offsetMinutes? rest with
      | some (minutes, after) => (some (if c = '-' then -(minutes : Int) else minutes), after)
      | none => (none, s)
    else (none, s)

/-- Reads the three parts of a date, which need not exist. -/
def dateParts? (s : List Char) : Option (Time.Date × List Char) := do
  let (year, rest) ← fixedDigits 4 0 s
  let (month, rest) ← twoDigits 1 12 (← mark? '-' rest)
  let (day, rest) ← twoDigits 1 31 (← mark? '-' rest)
  return (⟨year, month, day⟩, rest)

/-- Reads the time behind a date, after a letter or a space. -/
def timeAfterDate? : List Char → Option (ClockTime × List Char)
  | c :: rest => if c = 'T' ∨ c = 't' ∨ c = ' ' then clockTime? rest else none
  | [] => none

def dateValue? (s : List Char) : Option (Value × List Char) := do
  let (date, rest) ← dateParts? s
  match timeAfterDate? rest with
  | none => return (.date date, rest)
  | some (time, rest) =>
    let (minutes, rest) := offset rest
    return (.stamp date time minutes, rest)

/-- Whether a value names a date that exists, if it names one. -/
def hasRealDate : Value → Bool
  | .date d => decide d.Valid
  | .stamp d _ _ => decide d.Valid
  | _ => true

/-! ## Numbers -/

/-- Reads digits with single underscores between them. Before the first digit stands none. -/
def digitRun (isMember : Char → Bool) : List Char → List Char × List Char
  | [] => ([], [])
  | [c] => if isMember c then ([c], []) else ([], [c])
  | c :: d :: rest =>
    if isMember c then
      let (digits, after) := digitRun isMember (d :: rest)
      -- An underscore belongs to the number only if a digit follows.
      if digits = [] ∧ d = '_' then
        let (digits, after) := digitRun isMember rest
        if digits = [] then ([c], d :: rest) else (c :: digits, after)
      else (c :: digits, after)
    else ([], c :: d :: rest)

def ofBase (base : Nat) (digits : List Char) : Nat :=
  digits.foldl (fun n c => n * base + (Text.Json.hexValue? c).getD 0) 0

/-- Reads an integer whose base is spelled in front. -/
def basedInteger? (s : List Char) : Option (Nat × List Char) :=
  let read := fun (base : Nat) (isMember : Char → Bool) (rest : List Char) =>
    match digitRun isMember rest with
    | ([], _) => none
    | (digits, after) => some (ofBase base digits, after)
  match s with
  | '0' :: 'x' :: rest => read 16 (fun c => (Text.Json.hexValue? c).isSome) rest
  | '0' :: 'o' :: rest => read 8 (fun c => '0' ≤ c && c ≤ '7') rest
  | '0' :: 'b' :: rest => read 2 (fun c => c = '0' || c = '1') rest
  | _ => none

/-- Reads the integer part of a decimal number: a zero, or digits that start with another. -/
def integerPart? (s : List Char) : Option (List Char × List Char) :=
  match s with
  | '0' :: rest => some (['0'], rest)
  | s =>
    match digitRun Char.isDigit s with
    | ([], _) => none
    | (digits, rest) => some (digits, rest)

/-- Reads a point and digits, if they are there. -/
def fractionPart (s : List Char) : List Char × List Char :=
  match s with
  | '.' :: rest =>
    match digitRun Char.isDigit rest with
    | ([], _) => ([], s)
    | (digits, after) => ('.' :: digits, after)
  | s => ([], s)

def signPart (s : List Char) : List Char × List Char :=
  match s with
  | '+' :: rest => (['+'], rest)
  | '-' :: rest => (['-'], rest)
  | s => ([], s)

def exponentPart (s : List Char) : List Char × List Char :=
  match s with
  | [] => ([], [])
  | c :: rest =>
    if c = 'e' ∨ c = 'E' then
      let (sign, rest) := signPart rest
      match digitRun Char.isDigit rest with
      | ([], _) => ([], s)
      | (digits, after) => ('e' :: sign ++ digits, after)
    else ([], s)

/-- The value of a decimal number's parts. -/
def decimalValue (sign digits float : List Char) : Except Stop Value :=
  if float = [] then
    if Text.Number.digitLimit < digits.length then .error (.tooManyDigits digits.length)
    else
      let n := ofBase 10 digits
      return .integer (if sign = ['-'] then -(n : Int) else n)
  else
    return .real ((Text.Binary64.ofText? (String.ofList (sign ++ digits ++ float))).getD .nan)

def number? (s : List Char) : Option (Except Stop Value × List Char) :=
  match basedInteger? s with
  | some (n, rest) => some (.ok (.integer n), rest)
  | none => do
    let (sign, rest) := signPart s
    let (digits, rest) ← integerPart? rest
    let (fraction, rest) := fractionPart rest
    let (exponent, rest) := exponentPart rest
    return (decimalValue sign digits (fraction ++ exponent), rest)

/-- Reads infinity or no number, perhaps with a sign. -/
def namedNumber? (s : List Char) : Option (Value × List Char) :=
  let (sign, rest) := signPart s
  if rest.take 3 = "inf".toList then some (.real (.infinite (sign = ['-'])), rest.drop 3)
  else if rest.take 3 = "nan".toList then some (.real .nan, rest.drop 3)
  else none

def scalar (s : List Char) : Except Stop (Value × List Char) :=
  match dateValue? s with
  | some (v, rest) => if hasRealDate v then return (v, rest) else refuse .date s
  | none =>
    match clockTime? s with
    | some (t, rest) => return (.time t, rest)
    | none =>
      match number? s with
      | some (v, rest) => return (← v, rest)
      | none =>
        match namedNumber? s with
        | some (v, rest) => return (v, rest)
        | none => refuse .value s

end FeedSieve.Settings.Toml
