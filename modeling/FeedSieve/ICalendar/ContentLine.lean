import FeedSieve.ICalendar.Escape
import FeedSieve.ICalendar.Parameter

/-!
# Content lines

A line is a name, perhaps parameters, and a value: `NAME;KEY=x:value`. Delimiters count outside quotation
marks only, a backslash shields the next character, and the first character of a line is never one. Names
are in upper case, blanks in them do not count, and the escapes of the value are read.
-/
namespace FeedSieve.ICalendar

structure ContentLine where
  name : String
  parameters : List Parameter
  value : String
  deriving DecidableEq, Repr

inductive LineError where
  | name (text : List Char)
  /-- There is no delimiter, or no parameter after the one that announces some. -/
  | shape
  | parameter (piece : List Char) (cause : ParameterError)
  deriving DecidableEq, Repr

def LineError.message : LineError → String
  | .name text => String.ofList text
  | .shape => "Invalid content line"
  | .parameter piece cause =>
    Text.Quoted.quote (String.ofList piece) ++ " is not a valid parameter string: " ++ cause.message

/-- What stands before the first delimiter, the delimiter, and what follows it. A backslash outside
quotation marks shields the next character. -/
def cut (isMark : Char → Bool) (quoted shielded : Bool) :
    List Char → List Char × Option (Char × List Char)
  | [] => ([], none)
  | c :: rest =>
    if isMark c ∧ ¬ quoted ∧ ¬ shielded then ([], some (c, rest))
    else
      let quotes := c = '"' ∧ ¬ shielded
      let (before, after) :=
        cut isMark (if quotes then !quoted else quoted) (c = '\\' ∧ ¬ quoted) rest
      (c :: before, after)

/-- Cuts a line, whose first character is no delimiter, into its name and what follows. -/
def cutName : List Char → List Char × Option (Char × List Char)
  | [] => ([], none)
  | c :: rest =>
    let (before, after) :=
      cut (fun c => c == ':' || c == ';') (c == '"') (c == '\\') rest
    (c :: before, after)

namespace ContentLine

/-- Reads a content line. The name is judged before the rest. -/
def parse (line : List Char) : Except LineError ContentLine :=
  let (name, after) := cutName line
  let name := name.filter fun c => !isBlank c
  if ¬ isName name then .error (.name name)
  else
    let named := fun parameters value : List Char => do
      let parameters ← (readParameters parameters).mapError fun (piece, e) => .parameter piece e
      return ⟨Text.Case.upper (String.ofList name), parameters, String.ofList (unescape value)⟩
    match after with
    | none => .error .shape
    | some (':', value) => named [] value
    | some (_, rest) =>
      match cut (· == ':') false false rest with
      | ([], _) => .error .shape
      | (section_, some (_, value)) => named section_ value
      | (section_, none) => named section_ []

def parameter? (l : ContentLine) (key : String) : Option (List String) :=
  ICalendar.parameter? key l.parameters

end ContentLine

end FeedSieve.ICalendar
