import FeedSieve.Text.Number
import FeedSieve.Text.Quoted

/-!
# Refused settings files

A settings file is refused for a cause at a place. The place is kept as the number of characters that are
left there, and told as a line and a column.
-/
namespace FeedSieve.Settings.Toml

abbrev Key := List String

/-- A key as messages show it: its parts in parentheses, where a lone part has a comma behind it. -/
def showKey : Key → String
  | [part] => "(" ++ Text.Quoted.quote part ++ ",)"
  | parts => "(" ++ ", ".intercalate (parts.map Text.Quoted.quote) ++ ")"

inductive Cause where
  | statement
  | endOfStatement
  | keyStart
  | equalsSign
  | tableEnd
  | tableListEnd
  | value
  | date
  | unclosedList
  | unclosedTable
  | unterminatedText
  | expected (mark : String)
  | invalidCharacter (c : Char)
  | illegalCharacter (c : Char)
  | backslash
  | hexadecimal
  | codePoint
  | declaredTwice (key : Key)
  | redefined (key : Key)
  | immutable (key : Key)
  | overwritten
  | duplicate (name : String)
  deriving DecidableEq, Repr

def showChar (c : Char) : String := Text.Quoted.quote (String.singleton c)

def Cause.message : Cause → String
  | .statement => "Invalid statement"
  | .endOfStatement => "Expected newline or end of document after a statement"
  | .keyStart => "Invalid initial character for a key part"
  | .equalsSign => "Expected '=' after a key in a key/value pair"
  | .tableEnd => "Expected ']' at the end of a table declaration"
  | .tableListEnd => "Expected ']]' at the end of an array declaration"
  | .value => "Invalid value"
  | .date => "Invalid date or datetime"
  | .unclosedList => "Unclosed array"
  | .unclosedTable => "Unclosed inline table"
  | .unterminatedText => "Unterminated string"
  | .expected mark => "Expected " ++ Text.Quoted.quote mark
  | .invalidCharacter c => "Found invalid character " ++ showChar c
  | .illegalCharacter c => "Illegal character " ++ showChar c
  | .backslash => "Unescaped '\\' in a string"
  | .hexadecimal => "Invalid hex value"
  | .codePoint => "Escaped character is not a Unicode scalar value"
  | .declaredTwice key => "Cannot declare " ++ showKey key ++ " twice"
  | .redefined key => "Cannot redefine namespace " ++ showKey key
  | .immutable key => "Cannot mutate immutable namespace " ++ showKey key
  | .overwritten => "Cannot overwrite a value"
  | .duplicate name => "Duplicate inline table key " ++ Text.Quoted.quote name

/-- Why reading stops: a cause with the number of characters left there, or an integer of too many
digits. -/
inductive Stop where
  | refused (cause : Cause) (left : Nat)
  | tooManyDigits (digits : Nat)
  deriving DecidableEq, Repr

/-- Refuses the file before the characters that are left. -/
def refuse {α : Type} (cause : Cause) (rest : List Char) : Except Stop α :=
  .error (.refused cause rest.length)

/-- The place at which so many characters are left. Lines and columns count from 1. -/
def placeText (source : List Char) (left : Nat) : String :=
  if left = 0 then "end of document"
  else
    let passed := source.take (source.length - left)
    let column := (passed.reverse.takeWhile (· ≠ '\n')).length + 1
    "line " ++ toString (passed.count '\n' + 1) ++ ", column " ++ toString column

/-- What is wrong with a source, and where. -/
def refusalText (source : List Char) (cause : Cause) (left : Nat) : String :=
  cause.message ++ " (at " ++ placeText source left ++ ")"

end FeedSieve.Settings.Toml
