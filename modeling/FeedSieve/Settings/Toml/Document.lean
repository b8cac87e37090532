import FeedSieve.Settings.Toml.Scalar
import FeedSieve.Settings.Toml.Tree

/-!
# Settings files

A file is a sequence of statements, one a line: an entry, or the heading of a table or of a table of a
list, under which the entries after it go. `readDocument` gives the entries of the outermost table.
-/
namespace FeedSieve.Settings.Toml

/-- Refuses the file before the characters that are left if a change of tables is refused. -/
def checked {α : Type} (result : Except Cause α) (rest : List Char) : Except Stop α :=
  match result with
  | .ok a => .ok a
  | .error cause => refuse cause rest

/-- Drops what may stand between the items of a list. -/
def skipItemGaps (s : List Char) : Except Stop (List Char) := skipGaps (s.length + 1) s

/-! ## Values -/

def isNested : Value → Bool
  | .table _ => true
  | .list _ => true
  | _ => false

mutual

/-- Reads a value, in at most so many steps. -/
def readValue : (steps : Nat) → List Char → Except Stop (Value × List Char)
  | 0, s => refuse .value s
  | steps + 1, s =>
    match s with
    | [] => refuse .value []
    | c :: rest =>
      if c = '"' ∨ c = '\'' then do
        let (text, rest) ← anyText s
        return (.text (String.ofList text), rest)
      else if "true".toList.isPrefixOf s then return (.boolean true, s.drop 4)
      else if "false".toList.isPrefixOf s then return (.boolean false, s.drop 5)
      else if c = '[' then do
        let rest ← skipItemGaps rest
        let (items, rest) ← readItems steps rest
        return (.list items, rest)
      else if c = '\x7b' then
        match skipSpaces rest with
        | '\x7d' :: rest => return (.table [], rest)
        | rest => do
          let (entries, rest) ← readEntries steps [] .empty rest
          return (.table entries, rest)
      else scalar s

def readItems : (steps : Nat) → List Char → Except Stop (List Value × List Char)
  | 0, s => refuse .unclosedList s
  | steps + 1, s =>
    if s.head? = some ']' then return ([], s.tail)
    else do
      let (v, rest) ← readValue steps s
      match ← skipItemGaps rest with
      | ']' :: rest => return ([v], rest)
      | ',' :: rest => do
        let (items, rest) ← readItems steps (← skipItemGaps rest)
        return (v :: items, rest)
      | rest => refuse .unclosedList rest

/-- Reads a key, an equals sign and a value. -/
def readPair : (steps : Nat) → List Char → Except Stop ((Key × Value) × List Char)
  | 0, s => refuse .value s
  | steps + 1, s => do
    let (key, rest) ← readKey s
    match rest with
    | '=' :: rest => do
      let (v, rest) ← readValue steps (skipSpaces rest)
      return ((key, v), rest)
    | rest => refuse .equalsSign rest

def readEntries :
    (steps : Nat) → Entries → Marks → List Char → Except Stop (Entries × List Char)
  | 0, _, _, s => refuse .unclosedTable s
  | steps + 1, entries, marks, s => do
    let ((key, v), rest) ← readPair steps s
    if marks.isSealed key then refuse (.immutable key) rest
    else
      let name := key.getLast?.getD ""
      let entries ←
        checked (entries.change false (Entries.addNew name v (.duplicate name)) key.dropLast) rest
      match skipSpaces rest with
      | '\x7d' :: rest => return (entries, rest)
      | ',' :: rest =>
        -- A table or a list that is written out takes no further entries.
        readEntries steps entries (if isNested v then marks.sealKey key else marks)
          (skipSpaces rest)
      | rest => refuse .unclosedTable rest

end

/-! ## Statements -/

/-- What the statements so far have built: the entries, the marks, and the table that entries go to. -/
structure State where
  entries : Entries
  marks : Marks
  heading : Key

/-- The proper beginnings of a key, shortest first. -/
def beginnings (key : Key) : List Key :=
  (List.range (key.length - 1)).map fun i => key.take (i + 1)

/-- Marks the tables on the way of a dotted key, unless one of them was declared before. -/
def passTables (rest : List Char) : List Key → Marks → Except Stop Marks
  | [], marks => .ok marks
  | key :: keys, marks =>
    if marks.isDeclared key then refuse (.redefined key) rest
    else passTables rest keys (marks.declareLater key)

def entryStatement (state : State) (s : List Char) : Except Stop (State × List Char) := do
  let ((key, v), rest) ← readPair (2 * s.length + 2) s
  let name := key.getLast?.getD ""
  let parent := state.heading ++ key.dropLast
  let marks ← passTables rest ((beginnings key).map (state.heading ++ ·)) state.marks
  if marks.isSealed parent then refuse (.immutable parent) rest
  else
    let entries ←
      checked (state.entries.change true (Entries.addNew name v .overwritten) parent) rest
    let marks := if isNested v then marks.sealKey (state.heading ++ key) else marks
    return ({ state with entries, marks }, rest)

def tableStatement (state : State) (s : List Char) : Except Stop (State × List Char) := do
  let marks := state.marks.atHeading
  let (key, rest) ← readKey (skipSpaces s)
  if marks.isDeclared key || marks.isSealed key then refuse (.declaredTwice key) rest
  else
    let entries ← checked (state.entries.openTable key) rest
    match rest with
    | ']' :: rest => return (⟨entries, marks.declare key, key⟩, rest)
    | rest => refuse .tableEnd rest

def listStatement (state : State) (s : List Char) : Except Stop (State × List Char) := do
  let marks := state.marks.atHeading
  let (key, rest) ← readKey (skipSpaces s)
  if marks.isSealed key then refuse (.immutable key) rest
  else
    let name := key.getLast?.getD ""
    let entries ←
      checked (state.entries.change true (Entries.appendTable name) key.dropLast) rest
    match rest with
    -- A new table of the list starts without the marks of the one before.
    | ']' :: ']' :: rest => return (⟨entries, (marks.forget key).declare key, key⟩, rest)
    | rest => refuse .tableListEnd rest

def statement (state : State) (s : List Char) : Except Stop (State × List Char) :=
  match s with
  | [] => return (state, [])
  | '[' :: '[' :: rest => listStatement state rest
  | '[' :: rest => tableStatement state rest
  | c :: _ =>
    if isBareKey c ∨ c = '"' ∨ c = '\'' then entryStatement state s
    else if c = '#' ∨ c = '\n' then return (state, s)
    else refuse .statement s

/-- Reads lines, at most so many. -/
def readLines : (most : Nat) → State → List Char → Except Stop Entries
  | 0, state, _ => .ok state.entries
  | most + 1, state, s => do
    let (state, rest) ← statement state (skipSpaces s)
    match ← skipComment (skipSpaces rest) with
    | [] => return state.entries
    | '\n' :: rest => readLines most state rest
    | rest => refuse .endOfStatement rest

/-- Joins the two characters of a line break into one. -/
def joinBreaks : List Char → List Char
  | '\r' :: '\n' :: rest => '\n' :: joinBreaks rest
  | c :: rest => c :: joinBreaks rest
  | [] => []

inductive DocumentError where
  /-- It is refused, with what is wrong and where. -/
  | refused (message : String)
  /-- It holds an integer of too many digits. -/
  | tooManyDigits (digits : Nat)
  deriving DecidableEq, Repr

def readDocument (text : List Char) : Except DocumentError Entries :=
  let source := joinBreaks text
  match readLines (source.length + 1) ⟨[], .empty, []⟩ source with
  | .ok entries => .ok entries
  | .error (.refused cause left) => .error (.refused (refusalText source cause left))
  | .error (.tooManyDigits digits) => .error (.tooManyDigits digits)

end FeedSieve.Settings.Toml
