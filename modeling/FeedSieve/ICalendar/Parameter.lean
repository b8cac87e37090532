import FeedSieve.Text.Case
import FeedSieve.Text.Class.Word
import FeedSieve.Text.Quoted
import FeedSieve.Text.Replace

/-!
# Parameters of a content line

Between its name and its value a line may carry parameters: `;KEY=value,value`. Keys are compared in
upper case and the last one of a name counts. Quotation marks protect separators. A circumflex introduces
the three escapes for a line feed, a quotation mark and itself, and a backslash shields a separator: such
pairs travel through the splitting as percent codes.
-/
namespace FeedSieve.ICalendar

/-- Whether a name is made of letters, digits, underscores, points and dashes. -/
def isName (s : List Char) : Bool :=
  s ≠ [] && s.all fun c => Text.Class.isWord c || c == '.' || c == '-'

def isBlank (c : Char) : Bool := c == ' ' || c == '\t'

/-- A parameter: its key in upper case, and its values, of which there is at least one. -/
structure Parameter where
  key : String
  values : List String
  deriving DecidableEq, Repr

inductive ParameterError where
  /-- It has this many sides of an equals sign, where it should have two. -/
  | sides (count : Nat)
  | key (text : List Char)
  | value (text : List Char)
  deriving DecidableEq, Repr

def ParameterError.message : ParameterError → String
  | .sides count => "not enough values to unpack (expected 2, got " ++ toString count ++ ")"
  | .key text => String.ofList text
  | .value text => String.ofList text

/-! ## Splitting -/

/-- The pieces between separators outside quotation marks. -/
def splitPieces (mark : Char) (quoted : Bool) : List Char → List (List Char)
  | [] => [[]]
  | c :: rest =>
    if c = mark ∧ ¬ quoted then [] :: splitPieces mark quoted rest
    else match splitPieces mark (if c = '"' then !quoted else quoted) rest with
      | piece :: pieces => (c :: piece) :: pieces
      | [] => [[c]]

/-- The pieces of a text; an empty text has none. -/
def pieces (mark : Char) (s : List Char) : List (List Char) :=
  if s = [] then [] else splitPieces mark false s

/-- What stands before and after the first separator outside quotation marks. -/
def splitFirst (mark : Char) (quoted : Bool) : List Char → List Char × Option (List Char)
  | [] => ([], none)
  | c :: rest =>
    if c = mark ∧ ¬ quoted then ([], some rest)
    else
      let (before, after) := splitFirst mark (if c = '"' then !quoted else quoted) rest
      (c :: before, after)

/-- Drops blanks at the ends and around semicolons and equals signs, outside quotation marks. `held` are
the blanks read last, `fresh` says that blanks here would follow a separator. -/
def tightenFrom (quoted fresh : Bool) (held : List Char) : List Char → List Char
  | [] => []
  | c :: rest =>
    if quoted then c :: tightenFrom (c != '"') false [] rest
    else if isBlank c then tightenFrom false fresh (if fresh then [] else held ++ [c]) rest
    else if c = ';' ∨ c = '=' then c :: tightenFrom false true [] rest
    else held ++ c :: tightenFrom (c == '"') false [] rest

/-- The parameter section without the blanks that do not count. -/
def tighten (s : List Char) : List Char := tightenFrom false true [] s

/-! ## Escapes -/

/-- The characters a backslash shields in a parameter, with their percent codes. -/
def percentCodes : List (Char × List Char) :=
  [(',', "%2C".toList), (':', "%3A".toList), (';', "%3B".toList), ('\\', "%5C".toList)]

def shield (s : List Char) : List Char :=
  percentCodes.foldl (fun s (c, code) => Text.replaceAll ['\\', c] code s) s

def unshield (s : List Char) : List Char :=
  percentCodes.foldl (fun s (c, code) => Text.replaceAll code [c] s) s

/-- Reads the escapes that a circumflex introduces. -/
def readCircumflex : List Char → List Char
  | [] => []
  | [c] => [c]
  | c :: d :: rest =>
    if c = '^' ∧ d = '^' then '^' :: readCircumflex rest
    else if c = '^' ∧ d = 'n' then '\n' :: readCircumflex rest
    else if c = '^' ∧ d = '\'' then '"' :: readCircumflex rest
    else c :: readCircumflex (d :: rest)

/-! ## Reading -/

/-- Whether the character may not stand in a value, quoted or not. -/
def isUnsafe (c : Char) : Bool := (c.toNat < 32 && c != '\t') || c.toNat == 127 || c == '"'

/-- Drops quotation marks at both ends. -/
def unquote (s : List Char) : List Char :=
  let isMark := fun c : Char => c == '"'
  ((s.dropWhile isMark).reverse.dropWhile isMark).reverse

def readValue (s : List Char) : Except ParameterError String :=
  let isQuoted : Bool := s.head? = some '"' ∧ s.getLast? = some '"'
  let body := if isQuoted then unquote s else s
  -- Only a quoted value may hold the separators.
  let isBad := fun c : Char => isUnsafe c || (!isQuoted && (c == ',' || c == ':' || c == ';'))
  if body.any isBad then .error (.value body)
  else .ok (String.ofList (unshield (readCircumflex body)))

def readParameter (piece : List Char) : Except ParameterError Parameter :=
  match piece, splitFirst '=' false piece with
  | [], _ => .error (.sides 0)
  | _, (_, none) => .error (.sides 1)
  | _, (key, some value) =>
    if isName key then do
      -- Nothing behind the sign is one empty value.
      let values ← (if value = [] then [[]] else pieces ',' value).mapM readValue
      return ⟨Text.Case.upper (String.ofList (unshield key)), values⟩
    else .error (.key key)

/-- Reads the parameter section. An error comes with the piece it is in. -/
def readParameters (s : List Char) : Except (List Char × ParameterError) (List Parameter) :=
  (pieces ';' (shield (tighten s))).mapM fun piece =>
    match readParameter piece with
    | .ok p => .ok p
    | .error e => .error (piece, e)

/-- The values of a parameter: the last one of that key. -/
def parameter? (key : String) (ps : List Parameter) : Option (List String) :=
  (ps.reverse.find? (·.key == key)).map (·.values)

end FeedSieve.ICalendar
