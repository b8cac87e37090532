import FeedSieve.Text.Utf8

/-!
# Lines of a calendar

A calendar text is a sequence of lines. A line break, or several of them, before a blank continues the
line: `unfold` takes both away. `lines` cuts at the breaks that are left and drops empty lines. A line
break is a line feed with or without a carriage return before it; a carriage return elsewhere is text.
`fold` writes a line in pieces of fewer than 75 bytes each.
-/
namespace FeedSieve.ICalendar

/-- Removes each run of line breaks that a blank follows, with the blank. `held` is the run read last. -/
def unfoldFrom (held : List Char) : List Char → List Char
  | [] => held
  | '\r' :: '\n' :: rest => unfoldFrom (held ++ ['\r', '\n']) rest
  | '\n' :: rest => unfoldFrom (held ++ ['\n']) rest
  | c :: rest =>
    if held ≠ [] ∧ (c = ' ' ∨ c = '\t') then unfoldFrom [] rest
    else held ++ c :: unfoldFrom [] rest

/-- The text with its continued lines joined. -/
def unfold (s : List Char) : List Char := unfoldFrom [] s

/-- The pieces of a text between line breaks. -/
def splitBreaks : List Char → List (List Char)
  | [] => [[]]
  | '\r' :: '\n' :: rest => [] :: splitBreaks rest
  | '\n' :: rest => [] :: splitBreaks rest
  | c :: rest =>
    match splitBreaks rest with
    | line :: more => (c :: line) :: more
    | [] => [[c]]

def lines (s : List Char) : List (List Char) := (splitBreaks (unfold s)).filter (· ≠ [])

/-! ## Writing -/

/-- A piece of a line has fewer bytes than this. -/
def pieceLimit : Nat := 75

def lineEnd : List Char := ['\r', '\n']

/-- Whether the character begins an escape, so that a piece should not end with it. -/
def opensEscape (c : Char) : Bool := c == '\\' || c == '^'

/-- The pieces of a line, where `piece` are the characters of the current one, the last one first, and
`size` is its bytes. A character that begins an escape moves to the next piece, unless it is alone. -/
def foldFrom (piece : List Char) (size : Nat) : List Char → List (List Char)
  | [] => [piece.reverse]
  | c :: rest =>
    let width := Text.Utf8.width c
    if pieceLimit ≤ size + width then
      match piece with
      | d :: e :: more =>
        if opensEscape d then
          (e :: more).reverse :: foldFrom [c, d] (Text.Utf8.width d + width) rest
        else piece.reverse :: foldFrom [c] width rest
      | _ => piece.reverse :: foldFrom [c] width rest
    else foldFrom (c :: piece) (size + width) rest

/-- A line as it is written: pieces with a line break and a space between them, and a line break at the
end. -/
def fold (line : List Char) : List Char :=
  (lineEnd ++ [' ']).intercalate (foldFrom [] 0 line) ++ lineEnd

end FeedSieve.ICalendar
