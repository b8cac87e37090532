/-!
# JSON values and their compact text

A value, its writer and its reader. The writer puts no blanks between tokens, keeps the order of
fields and leaves every character above the controls as it is, apart from the quotation mark and the
backslash. A number keeps the text it was written with, so no digit is lost.
-/
namespace FeedSieve.Text

inductive Json where
  | null
  | bool (value : Bool)
  | number (digits : String)
  | string (text : String)
  | array (items : List Json)
  | object (fields : List (String × Json))
  deriving Repr, Inhabited

namespace Json

def int (n : Int) : Json := .number (toString n)

/-- The value of a field, the last one when the name is repeated. -/
def field? (v : Json) (name : String) : Option Json :=
  match v with
  | .object fields => (fields.reverse.find? (·.1 == name)).map (·.2)
  | _ => none

/-! ## Writing -/

/-- The four lower-case hexadecimal digits of a code unit. -/
def hexUnit (n : Nat) : List Char :=
  [n / 4096 % 16, n / 256 % 16, n / 16 % 16, n % 16].map Nat.digitChar

def escaped (c : Char) : List Char :=
  if c = '"' then ['\\', '"']
  else if c = '\\' then ['\\', '\\']
  else if c = '\n' then ['\\', 'n']
  else if c = '\r' then ['\\', 'r']
  else if c = '\t' then ['\\', 't']
  else if c.toNat = 8 then ['\\', 'b']
  else if c.toNat = 12 then ['\\', 'f']
  else if c.toNat < 32 then '\\' :: 'u' :: hexUnit c.toNat
  else [c]

def writeText (s : String) : List Char :=
  '"' :: s.toList.flatMap escaped ++ ['"']

mutual

def write : Json → List Char
  | .null => "null".toList
  | .bool true => "true".toList
  | .bool false => "false".toList
  | .number digits => digits.toList
  | .string text => writeText text
  | .array items => '[' :: writeItems items
  | .object fields => '\x7b' :: writeFields fields

def writeItems : List Json → List Char
  | [] => [']']
  | [v] => write v ++ [']']
  | v :: rest => write v ++ ',' :: writeItems rest

def writeFields : List (String × Json) → List Char
  | [] => ['\x7d']
  | [(name, v)] => writeText name ++ ':' :: write v ++ ['\x7d']
  | (name, v) :: rest => writeText name ++ ':' :: write v ++ ',' :: writeFields rest

end

/-- The compact text of a value. -/
def render (v : Json) : String := String.ofList (write v)

/-! ## Reading -/

/-- Drops blanks between tokens. -/
def skipBlanks (s : List Char) : List Char :=
  s.dropWhile fun c => c == ' ' || c == '\n' || c == '\r' || c == '\t'

def hexValue? (c : Char) : Option Nat :=
  if '0' ≤ c ∧ c ≤ '9' then some (c.toNat - 48)
  else if 'a' ≤ c ∧ c ≤ 'f' then some (c.toNat - 87)
  else if 'A' ≤ c ∧ c ≤ 'F' then some (c.toNat - 55)
  else none

/-- The code unit four hexadecimal digits stand for. -/
def unit? (a b c d : Char) : Option Nat := do
  let a ← hexValue? a
  let b ← hexValue? b
  let c ← hexValue? c
  let d ← hexValue? d
  return ((a * 16 + b) * 16 + c) * 16 + d

def shortEscape? (c : Char) : Option Char :=
  if c = '"' ∨ c = '\\' ∨ c = '/' then some c
  else if c = 'n' then some '\n'
  else if c = 'r' then some '\r'
  else if c = 't' then some '\t'
  else if c = 'b' then some (Char.ofNat 8)
  else if c = 'f' then some (Char.ofNat 12)
  else none

/-- Reads the characters of a text up to its closing quotation mark. A pair of surrogate escapes is
one character; a surrogate without its partner is refused. -/
def readText : List Char → Option (List Char × List Char)
  | [] => none
  | '"' :: rest => some ([], rest)
  | '\\' :: 'u' :: a :: b :: c :: d :: '\\' :: 'u' :: e :: f :: g :: h :: rest => do
    let first ← unit? a b c d
    if 0xD800 ≤ first ∧ first < 0xDC00 then
      let second ← unit? e f g h
      if 0xDC00 ≤ second ∧ second < 0xE000 then
        let (text, rest) ← readText rest
        return (Char.ofNat (0x10000 + (first - 0xD800) * 1024 + (second - 0xDC00)) :: text, rest)
      else none
    else if 0xDC00 ≤ first ∧ first < 0xE000 then none
    else
      let (text, rest) ← readText ('\\' :: 'u' :: e :: f :: g :: h :: rest)
      return (Char.ofNat first :: text, rest)
  | '\\' :: 'u' :: a :: b :: c :: d :: rest => do
    let first ← unit? a b c d
    if 0xD800 ≤ first ∧ first < 0xE000 then none
    else
      let (text, rest) ← readText rest
      return (Char.ofNat first :: text, rest)
  | '\\' :: c :: rest => do
    let c ← shortEscape? c
    let (text, rest) ← readText rest
    return (c :: text, rest)
  | c :: rest =>
    if c.toNat < 32 ∨ c = '\\' then none
    else (readText rest).map fun (text, rest) => (c :: text, rest)

/-- The longest run of decimal digits in front, and the rest. -/
def spanDigits (s : List Char) : List Char × List Char :=
  (s.takeWhile Char.isDigit, s.dropWhile Char.isDigit)

/-- Reads a number: an integer without a leading zero, then perhaps a fraction and an exponent. -/
def readNumber (s : List Char) : Option (List Char × List Char) := do
  let (sign, s) := match s with
    | '-' :: rest => (['-'], rest)
    | _ => ([], s)
  let (whole, s) := spanDigits s
  if whole = [] ∨ (whole.head? = some '0' ∧ whole.length ≠ 1) then none
  let (fraction, s) ← match s with
    | '.' :: rest =>
      let (digits, rest) := spanDigits rest
      if digits = [] then none else some ('.' :: digits, rest)
    | _ => some ([], s)
  let (exponent, s) ← match s with
    | c :: rest =>
      if c = 'e' ∨ c = 'E' then
        let (mark, rest) := match rest with
          | '+' :: rest => (['+'], rest)
          | '-' :: rest => (['-'], rest)
          | _ => ([], rest)
        let (digits, rest) := spanDigits rest
        if digits = [] then none else some (c :: mark ++ digits, rest)
      else some ([], s)
    | [] => some ([], s)
  return (sign ++ whole ++ fraction ++ exponent, s)

def readWord (word : List Char) (v : Json) (s : List Char) : Option (Json × List Char) :=
  if word.isPrefixOf s then some (v, s.drop word.length) else none

mutual

/-- Reads one value, nested at most `depth` deep. -/
def readValue (depth : Nat) (s : List Char) : Option (Json × List Char) :=
  match depth with
  | 0 => none
  | depth + 1 =>
    match skipBlanks s with
    | [] => none
    | '"' :: rest => (readText rest).map fun (text, rest) => (.string (String.ofList text), rest)
    | '[' :: rest =>
      match skipBlanks rest with
      | ']' :: rest => some (.array [], rest)
      | rest => (readItems depth rest).map fun (items, rest) => (.array items, rest)
    | '\x7b' :: rest =>
      match skipBlanks rest with
      | '\x7d' :: rest => some (.object [], rest)
      | rest => (readFields depth rest).map fun (fields, rest) => (.object fields, rest)
    | 'n' :: rest => readWord "null".toList .null ('n' :: rest)
    | 't' :: rest => readWord "true".toList (.bool true) ('t' :: rest)
    | 'f' :: rest => readWord "false".toList (.bool false) ('f' :: rest)
    | c :: rest =>
      (readNumber (c :: rest)).map fun (digits, rest) => (.number (String.ofList digits), rest)

def readItems (depth : Nat) (s : List Char) : Option (List Json × List Char) :=
  match depth with
  | 0 => none
  | depth + 1 => do
    let (v, rest) ← readValue depth s
    match skipBlanks rest with
    | ']' :: rest => return ([v], rest)
    | ',' :: rest =>
      let (items, rest) ← readItems depth rest
      return (v :: items, rest)
    | _ => none

def readFields (depth : Nat) (s : List Char) : Option (List (String × Json) × List Char) :=
  match depth with
  | 0 => none
  | depth + 1 =>
    match skipBlanks s with
    | '"' :: rest => do
      let (name, rest) ← readText rest
      match skipBlanks rest with
      | ':' :: rest =>
        let (v, rest) ← readValue depth rest
        match skipBlanks rest with
        | '\x7d' :: rest => return ([(String.ofList name, v)], rest)
        | ',' :: rest =>
          let (fields, rest) ← readFields depth rest
          return ((String.ofList name, v) :: fields, rest)
        | _ => none
      | _ => none
    | _ => none

end

/-- Reads a whole text as one value. -/
def read? (s : String) : Option Json :=
  match readValue (s.toList.length + 1) s.toList with
  | some (v, rest) => if (skipBlanks rest).isEmpty then some v else none
  | none => none

end Json

end FeedSieve.Text
