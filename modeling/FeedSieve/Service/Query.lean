import FeedSieve.Text.Json
import FeedSieve.Text.Replace
import FeedSieve.Text.Utf8

/-!
# Queries

A query is a sequence of named values between ampersands; a value may be missing or empty. A plus sign
stands for a space, and a percent sign with two hexadecimal digits for a byte of UTF-8.
-/
namespace FeedSieve.Service

/-- The bytes that characters below 128 stand for. -/
def percentBytes : List Char → List UInt8
  | [] => []
  | '%' :: a :: b :: rest =>
    match Text.Json.hexValue? a, Text.Json.hexValue? b with
    | some x, some y => (x * 16 + y).toUInt8 :: percentBytes rest
    | _, _ => '%'.toNat.toUInt8 :: percentBytes (a :: b :: rest)
  | c :: rest => c.toNat.toUInt8 :: percentBytes rest

/-- The character for a run of characters below 128, given in reverse. -/
def decodeRun (run : List Char) : List Char := Text.Utf8.decode (percentBytes run.reverse)

/-- Resolves percent signs. The second argument holds the characters below 128 just passed, in
reverse. -/
def percentDecode (run : List Char) : List Char → List Char
  | [] => decodeRun run
  | c :: rest =>
    if c.toNat < 0x80 then percentDecode (c :: run) rest
    else decodeRun run ++ c :: percentDecode [] rest

/-- The text that part of a query stands for. -/
def decodePart (s : List Char) : String :=
  String.ofList (percentDecode [] (s.map fun c => if c = '+' then ' ' else c))

def decodePiece (s : List Char) : String × String :=
  (decodePart (s.takeWhile (· ≠ '=')), decodePart ((s.dropWhile (· ≠ '=')).drop 1))

def decodeQuery (query : String) : List (String × String) :=
  ((Text.splitAt '&' query.toList).filter (· ≠ [])).map decodePiece

def parameter? (query : String) (name : String) : Option String :=
  ((decodeQuery query).reverse.find? (·.1 == name)).map (·.2)

end FeedSieve.Service
