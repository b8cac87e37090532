import FeedSieve.Text.Class.Blank
import FeedSieve.Text.Class.Digit

/-!
# Numbers written by people

A number in a settings file, an address or an argument may have white space around it, a sign, single
underscores between its digits, and digits of any script. An integer has at most 4300 digits.
-/
namespace FeedSieve.Text.Number

def digitLimit : Nat := 4300

inductive IntError where
  | malformed
  | tooLong (digits : Nat)
  deriving DecidableEq, Repr

def limitMessage (digits : Nat) : String :=
  "Exceeds the limit (" ++ toString digitLimit
    ++ " digits) for integer string conversion: value has " ++ toString digits
    ++ " digits; use sys.set_int_max_str_digits() to increase the limit"

/-- Digits with single underscores between them, after a digit was read. The result lists the digit
values and what follows the last digit. -/
def digitsAfter : List Char → List Nat × List Char
  | [] => ([], [])
  | [c] =>
    match Class.digitValue? c with
    | some d => ([d], [])
    | none => ([], [c])
  | c :: e :: rest =>
    match Class.digitValue? c with
    | some d =>
      let (ds, rest) := digitsAfter (e :: rest)
      (d :: ds, rest)
    | none =>
      if c = '_' then
        match Class.digitValue? e with
        | some d =>
          let (ds, rest) := digitsAfter rest
          (d :: ds, rest)
        | none => ([], c :: e :: rest)
      else ([], c :: e :: rest)

/-- A run of digits: one digit, then digits with single underscores between them. -/
def digits? : List Char → Option (List Nat × List Char)
  | [] => none
  | c :: rest => (Class.digitValue? c).map fun d =>
      let (ds, rest) := digitsAfter rest
      (d :: ds, rest)

def ofDigits (ds : List Nat) : Nat := ds.foldl (fun n d => n * 10 + d) 0

/-- Splits a sign off the front. The flag says whether the number is negative. -/
def splitSign : List Char → Bool × List Char
  | '-' :: rest => (true, rest)
  | '+' :: rest => (false, rest)
  | s => (false, s)

/-- Whether the character may stand around a number: white space that is no information separator. -/
def isPadding (c : Char) : Bool := Class.isBlank c && !(28 ≤ c.toNat && c.toNat ≤ 31)

/-- Drops padding at both ends. -/
def trimPadding (s : List Char) : List Char :=
  ((s.dropWhile isPadding).reverse.dropWhile isPadding).reverse

/-- Reads an integer. Too many digits are refused before what follows them is looked at. -/
def int? (s : String) : Except IntError Int :=
  let (negative, body) := splitSign (trimPadding s.toList)
  match digits? body with
  | none => .error .malformed
  | some (ds, rest) =>
    if rest.head? = some '_' then .error .malformed
    else if digitLimit < ds.length then .error (.tooLong ds.length)
    else if rest = [] then .ok (if negative then -(ofDigits ds : Int) else ofDigits ds)
    else .error .malformed

end FeedSieve.Text.Number
