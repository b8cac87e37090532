import FeedSieve.Text.Class.Printable
import FeedSieve.Text.Decimal
import FeedSieve.Value

/-!
# Message templates

A template is a text with places for values. A place is a percent sign, perhaps the name of a value in
parentheses, flags, a width and a precision, and a letter that says how the value is written. Places take
the values in order, unless they name one of a table. Two percent signs stand for one.
-/
namespace FeedSieve.Log.Template

/-- Why a template cannot be filled. -/
inductive Misfit where
  | tooFew
  | tooMany
  | noNumber (letter : Char) (kind : String)
  | noInteger (letter : Char) (kind : String)
  | noReal (kind : String)
  | noCharacter
  | characterRange
  | noTable
  | missing (name : String)
  | unknownLetter (c : Char) (position : Nat)
  | incomplete
  | incompleteName
  | starValue
  | nan
  | infinite
  | tooLarge
  deriving DecidableEq, Repr

def Misfit.message : Misfit → String
  | .tooFew => "not enough arguments for format string"
  | .tooMany => "not all arguments converted during string formatting"
  | .noNumber letter kind =>
    "%" ++ String.singleton letter ++ " format: a real number is required, not " ++ kind
  | .noInteger letter kind =>
    "%" ++ String.singleton letter ++ " format: an integer is required, not " ++ kind
  | .noReal kind => "must be real number, not " ++ kind
  | .noCharacter => "%c requires int or char"
  | .characterRange => "%c arg not in range(0x110000)"
  | .noTable => "format requires a mapping"
  | .missing name => Text.Quoted.quote name
  | .unknownLetter c position =>
    "unsupported format character '"
      ++ String.singleton (if 31 ≤ c.toNat ∧ c.toNat ≤ 126 then c else '?') ++ "' (0x"
      ++ String.ofList (Nat.toDigits 16 c.toNat) ++ ") at index " ++ toString position
  | .incomplete => "incomplete format"
  | .incompleteName => "incomplete format key"
  | .starValue => "* wants int"
  | .nan => "cannot convert float NaN to integer"
  | .infinite => "cannot convert float infinity to integer"
  | .tooLarge => "int too large to convert to float"

/-- What stands between the percent sign and the letter of a place. -/
structure Style where
  flags : List Char
  width : Nat
  precision : Option Nat

/-- Whether the value goes to the left end of its width. -/
def Style.isLeft (s : Style) : Bool := s.flags.contains '-'

/-- A text filled up to the width. Zeros go between the sign and the digits. -/
def Style.fill (s : Style) (isNumber : Bool) (sign body : List Char) : List Char :=
  let gap := s.width - (sign.length + body.length)
  if s.isLeft then sign ++ body ++ List.replicate gap ' '
  else if isNumber && s.flags.contains '0' then sign ++ List.replicate gap '0' ++ body
  else List.replicate gap ' ' ++ sign ++ body

def Style.sign (s : Style) (negative : Bool) : List Char :=
  if negative then ['-']
  else if s.flags.contains '+' then ['+']
  else if s.flags.contains ' ' then [' ']
  else []

/-- Upper-case letters, if so asked. -/
def raised (isUpper : Bool) (s : List Char) : List Char := if isUpper then s.map Char.toUpper else s

/-! ## One value -/

def writeText (s : Style) (text : String) : List Char :=
  let chars := text.toList
  s.fill false [] (match s.precision with | some p => chars.take p | none => chars)

/-- An integer in a style, in a base with the mark of that base. -/
def writeInteger (s : Style) (base : Nat) (mark : List Char) (isUpper : Bool) (n : Int) : List Char :=
  let digits := Nat.toDigits base n.natAbs
  let digits := List.replicate ((s.precision.getD 1) - digits.length) '0' ++ digits
  -- The mark goes with the sign, so that zeros fill up behind both.
  let mark := if s.flags.contains '#' then mark else []
  s.fill true (s.sign (n < 0) ++ raised isUpper mark) (raised isUpper digits)

def writeReal (s : Style) (letter : Char) (x : Text.Binary64) : List Char :=
  let places := s.precision.getD 6
  let keep := s.flags.contains '#'
  let isUpper := letter.isUpper
  match x with
  | .nan => s.fill true (s.sign false) (raised isUpper "nan".toList)
  | .infinite negative => s.fill true (s.sign negative) (raised isUpper "inf".toList)
  | .finite negative m e =>
    let body :=
      if letter.toLower = 'f' then Text.Decimal.positional keep places m e
      else if letter.toLower = 'e' then
        let (digits, power) := Text.Decimal.significant places m e
        Text.Decimal.scientific keep digits power
      else Text.Decimal.general keep places m e
    s.fill true (s.sign negative) (raised isUpper body)

/-- The integer that a letter for integers writes. -/
def integerOf (letter : Char) (v : Value) : Except Misfit Int :=
  match v with
  | .boolean b => .ok (if b then 1 else 0)
  | .integer n => .ok n
  | .real x =>
    if letter = 'x' ∨ letter = 'X' ∨ letter = 'o' then .error (.noInteger letter v.kind)
    else match x with
      | .nan => .error .nan
      | .infinite _ => .error .infinite
      | x => .ok (x.truncate?.getD 0)
  | v =>
    if letter = 'x' ∨ letter = 'X' ∨ letter = 'o' then .error (.noInteger letter v.kind)
    else .error (.noNumber letter v.kind)

/-- The real number that a letter for real numbers writes. -/
def realOf (v : Value) : Except Misfit Text.Binary64 :=
  let ofInt := fun n => match Text.Binary64.ofInt n with
    | .infinite _ => .error .tooLarge
    | x => .ok x
  match v with
  | .boolean b => ofInt (if b then 1 else 0)
  | .integer n => ofInt n
  | .real x => .ok x
  | v => .error (.noReal v.kind)

/-- The character that a value is or numbers. -/
def characterOf (v : Value) : Except Misfit Char :=
  let ofInt := fun n : Int =>
    if 0 ≤ n ∧ n < 0x110000 then .ok (Char.ofNat n.toNat) else .error .characterRange
  match v with
  | .boolean b => ofInt (if b then 1 else 0)
  | .integer n => ofInt n
  | .text s => match s.toList with
    | [c] => .ok c
    | _ => .error .noCharacter
  | _ => .error .noCharacter

/-- A text in which characters beyond the first 128 are spelled by number. -/
def plainText (s : String) : String :=
  String.ofList (s.toList.flatMap fun c =>
    if c.toNat < 0x80 then [c]
    else if c.toNat < 0x100 then '\\' :: 'x' :: Text.Quoted.hexDigits 2 c.toNat
    else if c.toNat < 0x10000 then '\\' :: 'u' :: Text.Quoted.hexDigits 4 c.toNat
    else '\\' :: 'U' :: Text.Quoted.hexDigits 8 c.toNat)

/-- A value written as a letter says, at a position of the template. -/
def writeValue (s : Style) (letter : Char) (position : Nat) (v : Value) :
    Except Misfit (List Char) :=
  if letter = 's' then .ok (writeText s (v.display?.getD ""))
  else if letter = 'r' then .ok (writeText s (v.shown?.getD ""))
  else if letter = 'a' then .ok (writeText s (plainText (v.shown?.getD "")))
  else if letter ∈ ['d', 'i', 'u'] then (integerOf letter v).map (writeInteger s 10 [] false)
  else if letter ∈ ['x', 'X'] then
    (integerOf letter v).map (writeInteger s 16 ['0', 'x'] (letter = 'X'))
  else if letter = 'o' then (integerOf letter v).map (writeInteger s 8 ['0', 'o'] false)
  else if letter ∈ ['e', 'E', 'f', 'F', 'g', 'G'] then (realOf v).map (writeReal s letter)
  else if letter = 'c' then (characterOf v).map fun c => writeText s (String.singleton c)
  else .error (.unknownLetter letter position)

/-! ## Places -/

/-- The values a template is filled with: those still to be taken, and the table that places may name
entries of. -/
structure Supply where
  values : List Value
  table : Option (List (String × Value))

def Supply.next (supply : Supply) : Except Misfit (Value × Supply) :=
  match supply.values with
  | [] => .error .tooFew
  | v :: rest => .ok (v, { supply with values := rest })

def Supply.pick (supply : Supply) (name : String) : Except Misfit Supply :=
  match supply.table with
  | none => .error .noTable
  | some entries =>
    match Value.entry? entries name with
    | none => .error (.missing name)
    | some v => .ok { supply with values := [v] }

/-- Splits a name from the template, up to the parenthesis that closes it. -/
def splitName (depth : Nat) : List Char → Option (List Char × List Char)
  | [] => none
  | c :: rest =>
    if c = ')' ∧ depth = 0 then some ([], rest)
    else
      let depth := if c = '(' then depth + 1 else if c = ')' then depth - 1 else depth
      (splitName depth rest).map fun (name, after) => (c :: name, after)

def readSize (supply : Supply) (s : List Char) : Except Misfit (Int × Supply × List Char) :=
  match s with
  | '*' :: rest => do
    let (v, supply) ← supply.next
    match v with
    | .integer n => return (n, supply, rest)
    | .boolean b => return (if b then 1 else 0, supply, rest)
    | _ => .error .starValue
  | s =>
    let digits := s.takeWhile Char.isDigit
    .ok (((String.ofList digits).toNat?.getD 0 : Nat), supply, s.dropWhile Char.isDigit)

def isFlag (c : Char) : Bool := ['-', '+', ' ', '#', '0'].contains c

/-- Reads a style. A negative width means the left end. -/
def readStyle (supply : Supply) (s : List Char) : Except Misfit (Style × Supply × List Char) := do
  let flags := s.takeWhile isFlag
  let (width, supply, rest) ← readSize supply (s.dropWhile isFlag)
  let flags := if width < 0 then '-' :: flags else flags
  match rest with
  | '.' :: rest => do
    let (precision, supply, rest) ← readSize supply rest
    return (⟨flags, width.natAbs, some precision.toNat⟩, supply, rest)
  | rest => return (⟨flags, width.natAbs, none⟩, supply, rest)

/-- Drops one letter that tells the size of a number. -/
def dropSizeLetter : List Char → List Char
  | c :: rest => if c = 'h' ∨ c = 'l' ∨ c = 'L' then rest else c :: rest
  | [] => []

def readName (supply : Supply) (s : List Char) : Except Misfit (Supply × List Char) :=
  match s with
  | '(' :: rest =>
    if supply.table.isNone then .error .noTable
    else match splitName 0 rest with
      | none => .error .incompleteName
      | some (name, rest) => (supply.pick (String.ofList name)).map fun supply => (supply, rest)
  | s => .ok (supply, s)

/-- Fills a place, from behind its percent sign, in a template of a given length. -/
def fillPlace (length : Nat) (supply : Supply) (s : List Char) :
    Except Misfit (List Char × Supply × List Char) := do
  let (supply, s) ← readName supply s
  let (style, supply, s) ← readStyle supply s
  match dropSizeLetter s with
  | [] => .error .incomplete
  | letter :: rest =>
    if letter = '%' then return (['%'], supply, rest)
    else do
      let (v, supply) ← supply.next
      -- The position is that of the letter, counted from the start of the template.
      return (← writeValue style letter (length - (rest.length + 1)) v, supply, rest)

/-- Fills the places of a template of a given length, at most so many. -/
def fillPlaces (length : Nat) : (most : Nat) → Supply → List Char → Except Misfit (List Char × Supply)
  | 0, supply, s => .ok (s, supply)
  | most + 1, supply, s =>
    let front := s.takeWhile (· ≠ '%')
    match s.dropWhile (· ≠ '%') with
    | [] => .ok (front, supply)
    | _ :: rest => do
      let (text, supply, rest) ← fillPlace length supply rest
      let (after, supply) ← fillPlaces length most supply rest
      return (front ++ text ++ after, supply)

/-- Fills a template. A lone table that is not empty serves by names; every other value must be used. -/
def fill (template : String) (values : List Value) : Except Misfit String := do
  let table := match values with
    | [.table (entry :: entries)] => some (entry :: entries)
    | _ => none
  let s := template.toList
  let (text, supply) ← fillPlaces s.length (s.length + 1) ⟨values, table⟩ s
  if !supply.values.isEmpty && supply.table.isNone then .error .tooMany else return String.ofList text

end FeedSieve.Log.Template
