import FeedSieve.Settings.Toml.Error
import FeedSieve.Text.Json

/-!
# The blanks and texts of a settings file

What stands between the tokens, and the four forms of a text: literal or with escapes, on one line or on
several. A text on several lines may end with one or two of its own marks in front of the closing three.
-/
namespace FeedSieve.Settings.Toml

def isSpace (c : Char) : Bool := c = ' ' || c = '\t'

def isGap (c : Char) : Bool := isSpace c || c = '\n'

def skipSpaces (s : List Char) : List Char := s.dropWhile isSpace

/-- Whether the character may not stand in a text on one line, or in a comment. -/
def isControl (c : Char) : Bool := (c.toNat < 32 && c ≠ '\t') || c.toNat = 127

/-- Whether the character may not stand in a text on several lines. -/
def isBlockControl (c : Char) : Bool := isControl c && c ≠ '\n'

/-- Whether the character may stand in a key without quotes. -/
def isBareKey (c : Char) : Bool :=
  c.isAlphanum || c = '-' || c = '_'

/-- Splits a text before the first occurrence of a mark. -/
def splitBefore (mark : List Char) : List Char → Option (List Char × List Char)
  | [] => if mark = [] then some ([], []) else none
  | c :: rest =>
    if mark.isPrefixOf (c :: rest) then some ([], c :: rest)
    else (splitBefore mark rest).map fun (before, after) => (c :: before, after)

/-- Refuses a piece that holds a character it may not hold. -/
def checkPiece (isBad : Char → Bool) (piece rest : List Char) : Except Stop Unit :=
  match piece.dropWhile (!isBad ·) with
  | [] => .ok ()
  | c :: after => refuse (.invalidCharacter c) (c :: after ++ rest)

/-- Drops a comment up to the end of its line. -/
def skipComment (s : List Char) : Except Stop (List Char) :=
  match s with
  | '#' :: rest => do
    let piece := rest.takeWhile (· ≠ '\n')
    let after := rest.dropWhile (· ≠ '\n')
    checkPiece isControl piece after
    return after
  | s => return s

/-- Drops blanks, line breaks and comments, at most so many comments. -/
def skipGaps : (comments : Nat) → List Char → Except Stop (List Char)
  | 0, s => return s
  | comments + 1, s => do
    let rest := s.dropWhile isGap
    if rest.head? = some '#' then skipGaps comments (← skipComment rest) else return rest

/-! ## Literal texts -/

/-- Reads a literal text up to its closing mark. -/
def literal (mark : String) (isBad : Char → Bool) (s : List Char) : Except Stop (List Char × List Char) :=
  match splitBefore mark.toList s with
  | none => refuse (.expected mark) []
  | some (piece, after) => do
    checkPiece isBad piece after
    return (piece, after.drop mark.length)

/-! ## Texts with escapes -/

/-- The character a letter after a backslash stands for. -/
def escapedChar? : Char → Option Char
  | 'b' => some (Char.ofNat 8)
  | 't' => some '\t'
  | 'n' => some '\n'
  | 'f' => some (Char.ofNat 12)
  | 'r' => some '\r'
  | '"' => some '"'
  | '\\' => some '\\'
  | _ => none

def hexNumber? (s : List Char) : Option Nat :=
  s.foldlM (fun n c => (Text.Json.hexValue? c).map (n * 16 + ·)) 0

def spelledChar (count : Nat) (s : List Char) : Except Stop (List Char × List Char) :=
  let digits := s.take count
  match hexNumber? digits with
  | none => refuse .hexadecimal s
  | some n =>
    let rest := s.drop count
    if digits.length ≠ count then refuse .hexadecimal s
    else if n < 0xD800 ∨ (0xE000 ≤ n ∧ n < 0x110000) then return ([Char.ofNat n], rest)
    else refuse .codePoint rest

/-- A backslash before the end of a line hides the line break and the blanks after it. -/
def hiddenBreak (s : List Char) : Except Stop (List Char × List Char) :=
  match skipSpaces s with
  | [] => return ([], [])
  | '\n' :: rest => return ([], rest.dropWhile isGap)
  | rest => refuse .backslash rest

/-- What an escape stands for, read after its backslash. -/
def escapeSequence (isBlock : Bool) (s : List Char) : Except Stop (List Char × List Char) :=
  match s with
  | [] => refuse .backslash []
  | c :: rest =>
    if isBlock && isGap c then
      if c = '\n' then return ([], rest.dropWhile isGap) else hiddenBreak rest
    else if c = 'u' then spelledChar 4 rest
    else if c = 'U' then spelledChar 8 rest
    else match escapedChar? c with
      | some image => return ([image], rest)
      | none => refuse .backslash rest

/-- Reads a text with escapes up to its closing mark, in at most `steps` steps. -/
def escapedText (isBlock : Bool) : (steps : Nat) → List Char → Except Stop (List Char × List Char)
  | 0, s => refuse .unterminatedText s
  | _ + 1, [] => refuse .unterminatedText []
  | steps + 1, c :: rest =>
    if c = '"' then
      if !isBlock then return ([], rest)
      else if "\"\"".toList.isPrefixOf rest then return ([], rest.drop 2)
      else do
        let (text, after) ← escapedText isBlock steps rest
        return (c :: text, after)
    else if c = '\\' then do
      let (image, rest) ← escapeSequence isBlock rest
      let (text, after) ← escapedText isBlock steps rest
      return (image ++ text, after)
    else if (if isBlock then isBlockControl c else isControl c) then
      refuse (.illegalCharacter c) (c :: rest)
    else do
      let (text, after) ← escapedText isBlock steps rest
      return (c :: text, after)

/-- Adds up to two marks that follow the closing three. -/
def closingMarks (mark : Char) (text rest : List Char) : List Char × List Char :=
  if [mark, mark].isPrefixOf rest then (text ++ [mark, mark], rest.drop 2)
  else if [mark].isPrefixOf rest then (text ++ [mark], rest.drop 1)
  else (text, rest)

/-- Drops one line break in front. -/
def dropBreak : List Char → List Char
  | '\n' :: rest => rest
  | s => s

def lineText : List Char → Except Stop (List Char × List Char)
  | '\'' :: rest => literal "'" isControl rest
  | '"' :: rest => escapedText false (rest.length + 1) rest
  | s => refuse .value s

/-- Reads a text of either kind, from its opening mark. -/
def anyText (s : List Char) : Except Stop (List Char × List Char) :=
  if "'''".toList.isPrefixOf s then do
    let (text, rest) ← literal "'''" isBlockControl (dropBreak (s.drop 3))
    return closingMarks '\'' text rest
  else if "\"\"\"".toList.isPrefixOf s then do
    let rest := dropBreak (s.drop 3)
    let (text, rest) ← escapedText true (rest.length + 1) rest
    return closingMarks '"' text rest
  else lineText s

/-! ## Keys -/

def keyPart (s : List Char) : Except Stop (String × List Char) :=
  match s with
  | [] => refuse .keyStart []
  | c :: _ =>
    if isBareKey c then return (String.ofList (s.takeWhile isBareKey), s.dropWhile isBareKey)
    else if c = '\'' || c = '"' then do
      let (text, rest) ← lineText s
      return (String.ofList text, rest)
    else refuse .keyStart s

/-- Reads the parts of a key that follow its first one, and the blanks behind it. -/
def keyParts : (most : Nat) → List Char → Except Stop (Key × List Char)
  | 0, s => return ([], s)
  | most + 1, s =>
    match skipSpaces s with
    | '.' :: rest => do
      let (part, rest) ← keyPart (skipSpaces rest)
      let (parts, rest) ← keyParts most rest
      return (part :: parts, rest)
    | rest => return ([], rest)

/-- Reads a dotted key and the blanks behind it. -/
def readKey (s : List Char) : Except Stop (Key × List Char) := do
  let (part, rest) ← keyPart s
  let (parts, rest) ← keyParts (rest.length + 1) rest
  return (part :: parts, rest)

end FeedSieve.Settings.Toml
