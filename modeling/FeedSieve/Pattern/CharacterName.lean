import FeedSieve.Pattern.CharacterName.Aliases
import FeedSieve.Pattern.CharacterName.Ancient
import FeedSieve.Pattern.CharacterName.Forms
import FeedSieve.Pattern.CharacterName.Letters
import FeedSieve.Pattern.CharacterName.Pictures
import FeedSieve.Pattern.CharacterName.Scripts
import FeedSieve.Pattern.CharacterName.Symbols

/-!
# Names of characters

Patterns may name a character of Unicode 14. A syllable of Hangul is named by its parts, some characters by
the number of their code point, and all others by the tables. Each line of a table is a row: a code point,
a beginning, and the names from that code point on without the beginning, each after a vertical bar. A code
point without a name leaves the place behind its bar empty.
-/
namespace FeedSieve.Pattern

/-- The number that upper-case hexadecimal digits stand for. -/
def hexCode? (s : List Char) : Option Nat :=
  s.foldl (fun n c => n.bind fun n =>
    if c.isDigit then some (n * 16 + (c.toNat - 48))
    else if 'A' ≤ c ∧ c ≤ 'F' then some (n * 16 + (c.toNat - 55))
    else none) (some 0)

/-! ## Names in tables -/

def nameTables : List String :=
  [letterNames, scriptNames, symbolNames, formNames, ancientNames, pictureNames, aliasNames]

/-- The code point of a name in a row. -/
def rowCode? (name row : List Char) : Option Nat :=
  let (first, names) := (row.dropWhile (· = ' ')).span (· ≠ '|')
  let digits := first.takeWhile (· ≠ ' ')
  let beginning := first.drop (digits.length + 1)
  let rest := name.drop beginning.length
  if beginning.isPrefixOf name ∧ rest ≠ [] then do
    let code ← hexCode? digits
    let i ← ((names.drop 1).splitOn '|').idxOf? rest
    return code + i
  else none

def tableCode? (name : List Char) (table : String) : Option Nat :=
  (table.toList.splitOn '\n').findSome? (rowCode? name)

/-! ## Names that hold a number -/

/-- The beginnings of names that end in the number of a code point, with ranges of code points. -/
def numberedNames : List (String × List (Nat × Nat)) := [
  ("CJK COMPATIBILITY IDEOGRAPH-", [(0xF900, 0xFA6D), (0xFA70, 0xFAD9), (0x2F800, 0x2FA1D)]),
  ("KHITAN SMALL SCRIPT CHARACTER-", [(0x18B00, 0x18CD5)]),
  ("NUSHU CHARACTER-", [(0x1B170, 0x1B2FB)])]

def ideographs : List (Nat × Nat) := [
  (0x3400, 0x4DBF), (0x4E00, 0x9FFF), (0x20000, 0x2A6DF), (0x2A700, 0x2B738), (0x2B740, 0x2B81D),
  (0x2B820, 0x2CEA1), (0x2CEB0, 0x2EBE0), (0x30000, 0x3134A)]

/-- The code point in some ranges that digits stand for. -/
def codeIn? (ranges : List (Nat × Nat)) (digits : List Char) : Option Nat :=
  (hexCode? digits).filter fun n => ranges.any fun r => r.1 ≤ n && n ≤ r.2

def numberedCode? (name : List Char) : Option Nat :=
  numberedNames.findSome? fun (beginning, ranges) =>
    if beginning.toList.isPrefixOf name then
      let digits := name.drop beginning.length
      (codeIn? ranges digits).filter fun n => digits.length = if n < 0x10000 then 4 else 5
    else none

/-- The code point of the unified ideograph with a number. Unlike the other names, it may have a zero too
many. -/
def ideographCode? (digits : List Char) : Option Nat :=
  if digits.length = 4 ∨ digits.length = 5 then codeIn? ideographs digits else none

/-! ## Syllables of Hangul -/

def syllableStarts : List String :=
  ["G", "GG", "N", "D", "DD", "R", "M", "B", "BB", "S", "SS", "", "J", "JJ", "C", "K", "T", "P", "H"]

def syllableVowels : List String :=
  ["A", "AE", "YA", "YAE", "EO", "E", "YEO", "YE", "O", "WA", "WAE", "OE", "YO", "U", "WEO", "WE", "WI",
    "YU", "EU", "YI", "I"]

def syllableEnds : List String :=
  ["", "G", "GG", "GS", "N", "NJ", "NH", "D", "L", "LG", "LM", "LB", "LS", "LT", "LP", "LH", "M", "B",
    "BS", "S", "SS", "NG", "J", "C", "K", "T", "P", "H"]

/-- The index of the longest part that a name begins with, and what is left of the name. -/
def longestPart? (parts : List String) (name : List Char) : Option (Nat × List Char) :=
  let fitting := parts.zipIdx.filter fun p => p.1.toList.isPrefixOf name
  (fitting.find? fun p => fitting.all fun q => q.1.length ≤ p.1.length).map fun p =>
    (p.2, name.drop p.1.length)

/-- The code point of the syllable with a start, a vowel and an end. -/
def syllableCode? (name : List Char) : Option Nat := do
  let (start, name) ← longestPart? syllableStarts name
  let (vowel, name) ← longestPart? syllableVowels name
  let (ending, name) ← longestPart? syllableEnds name
  if name = [] then
    return 0xAC00 + (start * syllableVowels.length + vowel) * syllableEnds.length + ending
  else none

/-! ## Names -/

def syllableBeginning : List Char := "HANGUL SYLLABLE ".toList

def ideographBeginning : List Char := "CJK UNIFIED IDEOGRAPH-".toList

/-- The code point of a name. Names may be in any case, but for those of syllables and unified ideographs. -/
def codeNamed? (name : String) : Option Nat :=
  let given := name.toList
  if syllableBeginning.isPrefixOf given then syllableCode? (given.drop syllableBeginning.length)
  else if ideographBeginning.isPrefixOf given then ideographCode? (given.drop ideographBeginning.length)
  else
    let wanted := given.map Char.toUpper
    (numberedCode? wanted).or (nameTables.findSome? (tableCode? wanted))

end FeedSieve.Pattern
