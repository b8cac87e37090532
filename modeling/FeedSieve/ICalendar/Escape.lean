import FeedSieve.Text.Replace

/-!
# Escapes in values

In a value a backslash stands before a comma, a semicolon, a colon or another backslash to take it
literally, and before an `n` for a line feed. `unescape` reads a value; a backslash before anything else
is kept. `escape` writes a text; every line break becomes the escape of a line feed, and so does a
backslash with a capital `N` in the text itself.
-/
namespace FeedSieve.ICalendar

def escapedChar? (c : Char) : Option Char :=
  if c = '\\' ∨ c = ',' ∨ c = ';' ∨ c = ':' then some c
  else if c = 'n' ∨ c = 'N' then some '\n'
  else none

def unescape : List Char → List Char
  | [] => []
  | [c] => [c]
  | c :: d :: rest =>
    if c = '\\' then
      match escapedChar? d with
      | some e => e :: unescape rest
      | none => c :: unescape (d :: rest)
    else c :: unescape (d :: rest)

/-- Escapes a text in which no capital escape is left. -/
def escapeChars : List Char → List Char
  | [] => []
  | '\r' :: '\n' :: rest => '\\' :: 'n' :: escapeChars rest
  | c :: rest =>
    (if c = '\\' ∨ c = ';' ∨ c = ',' then ['\\', c]
      else if c = '\n' ∨ c = '\r' then ['\\', 'n']
      else [c]) ++ escapeChars rest

def escape (s : List Char) : List Char := escapeChars (Text.replaceAll ['\\', 'N'] ['\n'] s)

end FeedSieve.ICalendar
