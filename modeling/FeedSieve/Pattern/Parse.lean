import FeedSieve.Pattern.Basic
import FeedSieve.Pattern.CharacterName
import FeedSieve.Pattern.Error
import FeedSieve.Text.Class.Identifier
import FeedSieve.Text.Number

/-!
# Reading patterns

A pattern is read from left to right, one token at a time: a character, or a backslash with the character
after it. Flags in front hold for the whole pattern, flags in a group for that group. Groups are numbered
by their opening parenthesis. A pattern is then checked once more: a look behind needs a fixed width.
-/
namespace FeedSieve.Pattern

/-- A token: a character, or one behind a backslash. -/
inductive Token where
  | plain (c : Char)
  | escaped (c : Char)
  deriving DecidableEq, Repr

def Token.chars : Token → List Char
  | .plain c => [c]
  | .escaped c => ['\\', c]

def Token.text (t : Token) : String := String.ofList t.chars

/-- Letters of flags that are set. -/
abbrev FlagSet := List Char

/-- The flags in force where some are added and some removed. The two alphabets exclude each other. -/
def FlagSet.combine (f added removed : FlagSet) : FlagSet :=
  let kept := if 'a' ∈ added ∨ 'u' ∈ added then f.filter fun c => c ≠ 'a' ∧ c ≠ 'u' else f
  (kept ++ added).filter (· ∉ removed)

/-- How letters are compared under flags. -/
def FlagSet.folding (f : FlagSet) : Folding :=
  if 'i' ∈ f then (if 'a' ∈ f then .ascii else .full) else .exact

/-- How far a pattern is read: what is left, its position, the flags of the whole pattern, the number of
groups opened with the whole pattern as group 0, the named groups, the widths of the groups closed, the
number of groups before an enclosing look behind, and the groups that conditions refer to by number, with
the places they do so. -/
structure Reader where
  rest : List Char
  position : Nat
  globals : FlagSet
  groups : Nat
  names : List (String × Nat)
  widths : List (Nat × Width)
  lookbehind : Option Nat
  references : List (Nat × Nat)

abbrev Parser := StateT Reader (Except Refusal)

namespace Parser

/-- Refuses the pattern at a position. -/
def failAt {α : Type} (cause : Cause) (position : Nat) : Parser α :=
  throw (.error ⟨cause, some position⟩)

/-- Refuses the pattern some characters before the next token. -/
def fail {α : Type} (cause : Cause) (back : Nat) : Parser α := do
  failAt cause ((← get).position - back)

/-- Refuses a backslash with nothing after it. -/
def checkToken (rest : List Char) (position : Nat) : Except Refusal Unit :=
  if rest = ['\\'] then .error (.error ⟨.escapeAtEnd, some position⟩) else .ok ()

def peek : Parser (Option Token) := do
  match (← get).rest with
  | [] => return none
  | '\\' :: c :: _ => return some (.escaped c)
  | c :: _ => return some (.plain c)

def advance : Parser Unit := do
  match ← peek with
  | none => return ()
  | some t => do
    let r ← get
    let rest := r.rest.drop t.chars.length
    let position := r.position + t.chars.length
    -- The token behind this one is looked at already, so a lone backslash there is refused now.
    checkToken rest position
    set { r with rest, position }

def take : Parser (Option Token) := do
  let t ← peek
  advance
  return t

/-- Takes the next token if it is a certain character. -/
def accept (c : Char) : Parser Bool := do
  if (← peek) = some (.plain c) then
    advance
    return true
  else return false

/-- Takes at most `count` characters of a class. -/
def some_ (isMember : Char → Bool) : (count : Nat) → Parser (List Char)
  | 0 => return []
  | count + 1 => do
    match ← peek with
    | some (.plain c) =>
      if isMember c then do
        advance
        return c :: (← some_ isMember count)
      else return []
    | _ => return []

/-- Takes tokens up to a character, which must be there, and not at once. -/
def untilFrom (mark : Char) (what : String) : (fuel : Nat) → (read : List Char) → Parser String
  | 0, _ => failAt (.missing what) 0
  | fuel + 1, read => do
    match ← take with
    | none =>
      if read = [] then fail (.missing what) 0
      else fail (.unterminatedName (String.singleton mark)) read.length
    | some t =>
      if t = .plain mark then
        if read = [] then fail (.missing what) 1 else return String.ofList read
      else untilFrom mark what fuel (read ++ t.chars)

/-- The number of tokens that are left, at most, and one more. -/
def fuel : Parser Nat := return (← get).rest.length + 1

/-- The text up to a character, which must be there, and not at once. -/
def untilMark (mark : Char) (what : String) : Parser String := do
  untilFrom mark what (← fuel) []

/-- Goes behind the next of some characters, or to the end. The result tells which. -/
def skipPast (mark : Char) : (fuel : Nat) → Parser Bool
  | 0 => return false
  | fuel + 1 => do
    match ← take with
    | none => return false
    | some t => if t = .plain mark then return true else skipPast mark fuel

/-! ## Escapes -/

def isHex (c : Char) : Bool :=
  c.isDigit || ('a' ≤ c && c ≤ 'f') || ('A' ≤ c && c ≤ 'F')

def isOctal (c : Char) : Bool := '0' ≤ c && c ≤ '7'

def numberOf (base : Nat) (digits : List Char) : Nat :=
  digits.foldl (fun n c =>
    n * base + (if c.isDigit then c.toNat - 48 else c.toLower.toNat - 87)) 0

/-- The code point that exactly `count` hexadecimal digits spell, after a backslash and a letter. -/
def hexEscape (letter : Char) (count : Nat) : Parser Nat := do
  let digits ← some_ isHex count
  let text := '\\' :: letter :: digits
  if digits.length ≠ count then fail (.incompleteEscape (String.ofList text)) text.length
  else
    let n := numberOf 16 digits
    if 0x10FFFF < n then fail (.badEscape (String.ofList text)) text.length else return n

/-- The code point of a character that is named. -/
def nameEscape : Parser Nat := do
  if ← accept '\x7b' then
    let name ← untilMark '\x7d' "character name"
    match codeNamed? name with
    | some n => return n
    | none => fail (.characterName name) (name.length + 4)
  else fail (.missing "\x7b") 0

/-- The code point an escape spells by digits or by a name, if its letter announces one. -/
def spelled? (c : Char) : Option (Parser Nat) :=
  if c = 'x' then some (hexEscape c 2)
  else if c = 'u' then some (hexEscape c 4)
  else if c = 'U' then some (hexEscape c 8)
  else if c = 'N' then some nameEscape
  else none

def controlCode? (c : Char) : Option Nat :=
  if c = 'a' then some 7
  else if c = 'f' then some 12
  else if c = 'n' then some 10
  else if c = 'r' then some 13
  else if c = 't' then some 9
  else if c = 'v' then some 11
  else none

def category? (f : FlagSet) (c : Char) : Option SetItem :=
  let item := fun kind => some (.category c.isUpper kind ('a' ∈ f))
  if c = 'd' ∨ c = 'D' then item .digit
  else if c = 's' ∨ c = 'S' then item .blank
  else if c = 'w' ∨ c = 'W' then item .word
  else none

def anchor? (f : FlagSet) (c : Char) : Option Anchor :=
  if c = 'A' then some .textStart
  else if c = 'Z' then some .textEnd
  else if c = 'b' then some (.boundary false ('a' ∈ f))
  else if c = 'B' then some (.boundary true ('a' ∈ f))
  else none

def octal (digits : List Char) : Parser Nat := do
  let n := numberOf 8 digits
  if 0o377 < n then
    fail (.octalRange (String.ofList ('\\' :: digits))) (digits.length + 1)
  else return n

/-- Refuses an escape that means nothing, and otherwise takes the character literally. -/
def literal (c : Char) : Parser Nat :=
  if c.isAlpha ∨ c.isDigit then fail (.badEscape (String.ofList ['\\', c])) 2 else return c.toNat

def setEscape (f : FlagSet) (c : Char) : Parser (Nat ⊕ SetItem) := do
  match controlCode? c, category? f c, spelled? c with
  | some n, _, _ => return .inl n
  | _, some item, _ => return .inr item
  | _, _, some code => return .inl (← code)
  | _, _, _ =>
    if c = 'b' then return .inl 8
    else if isOctal c then return .inl (← octal (c :: (← some_ isOctal 2)))
    else return .inl (← literal c)

/-! ## Sets -/

/-- One end of a range in a set, or a class. -/
def setAtom (f : FlagSet) : Token → Parser (Nat ⊕ SetItem)
  | .plain c => return .inl c.toNat
  | .escaped c => setEscape f c

/-- The item for one end alone. -/
def itemOf : Nat ⊕ SetItem → SetItem
  | .inl n => .range n n
  | .inr item => item

/-- The items of a set up to its bracket, the last one first. A bracket that comes first is an item. -/
def setItems (f : FlagSet) (start : Nat) : (fuel : Nat) → List SetItem → Parser (List SetItem)
  | 0, _ => failAt .unterminatedSet start
  | fuel + 1, done => do
    match ← take with
    | none => failAt .unterminatedSet start
    | some t =>
      if t = .plain ']' ∧ done ≠ [] then return done
      else
        let first ← setAtom f t
        if ← accept '-' then
          match ← take with
          | none => failAt .unterminatedSet start
          | some u =>
            -- A hyphen in front of the closing bracket stands for itself.
            if u = .plain ']' then return .range 45 45 :: itemOf first :: done
            else
              let second ← setAtom f u
              let refused := fail (.characterRange t.text u.text)
                (t.chars.length + 1 + u.chars.length)
              match first, second with
              | .inl a, .inl b =>
                if b < a then refused else setItems f start fuel (.range a b :: done)
              | _, _ => refused
        else setItems f start fuel (itemOf first :: done)

def set_ (f : FlagSet) : Parser Node := do
  let start := (← get).position - 1
  let outside ← accept '^'
  let items ← setItems f start (← fuel) []
  return .char (.set outside f.folding items.reverse)

/-! ## Groups by number and name -/

def isClosed (number : Nat) : Parser Bool := do
  return (← get).widths.any (·.1 == number)

/-- Refuses a reference inside a look behind to a group that is open or in the same look behind. -/
def checkLookbehind (number : Nat) : Parser Unit := do
  match (← get).lookbehind with
  | none => return ()
  | some groups =>
    if !(← isClosed number) then fail .openGroup 0
    else if groups ≤ number then fail .sameLookbehind 0
    else return ()

def reference (f : FlagSet) (number back : Nat) : Parser Node := do
  match ((← get).widths.find? (·.1 == number)).map (·.2) with
  | none => fail .openGroup back
  | some width => do
    checkLookbehind number
    return .again number f.folding width

/-- The name of a group, up to a character. -/
def groupName (mark : Char) : Parser String := do
  let name ← untilMark mark "group name"
  if Text.Class.isIdentifier name.toList then return name
  else fail (.groupName name) (name.length + 1)

def numberNamed (name : String) : Parser Nat := do
  match ((← get).names.find? (·.1 == name)).map (·.2) with
  | some number => return number
  | none => fail (.unknownGroup name) (name.length + 1)

/-- An escape of digits outside a set: a code point in octal, or a reference. -/
def digitEscape (f : FlagSet) (c : Char) : Parser Node := do
  let code := fun n => Node.char (.code f.folding n)
  if c = '0' then return code (← octal (c :: (← some_ isOctal 2)))
  else
    let second ← some_ Char.isDigit 1
    let third ←
      if isOctal c ∧ second ≠ [] ∧ second.all isOctal then some_ isOctal 1 else pure []
    -- Three octal digits are a code point, even where a group has that number.
    if third ≠ [] then return code (← octal (c :: second ++ third))
    else
      let digits := c :: second
      let number := numberOf 10 digits
      if number < (← get).groups then reference f number (digits.length + 1)
      else fail (.groupReference number) digits.length

/-! ## Flags of a group -/

def isLetter (c : Char) : Bool := c != '_' && Text.Class.isIdentifier [c]

def flagLetters : List Char := ['i', 'L', 'm', 's', 'x', 'a', 't', 'u']

def refuseFlag {α : Type} (cause : Cause) (t : Token) : Parser α :=
  match t with
  | .plain c => fail (if isLetter c then .unknownFlag else cause) 1
  | .escaped _ => fail cause 2

/-- The flags that are turned on, starting with `c`, and the character after them. -/
def flagsOn : (fuel : Nat) → (c : Char) → FlagSet → Parser (FlagSet × Char)
  | 0, _, _ => fail (.missing "-, : or )") 0
  | fuel + 1, c, added => do
    if c = 'L' then fail .localeFlag 0
    else
      let added := added ++ [c]
      if 'a' ∈ added ∧ 'u' ∈ added then fail .alphabets 0
      else
        match ← take with
        | none => fail (.missing "-, : or )") 0
        | some (.plain d) =>
          if d = ')' ∨ d = '-' ∨ d = ':' then return (added, d)
          else if d ∈ flagLetters then flagsOn fuel d added
          else refuseFlag (.missing "-, : or )") (.plain d)
        | some t => refuseFlag (.missing "-, : or )") t

/-- The flags that are turned off, starting with `c`, up to the colon. -/
def flagsOff : (fuel : Nat) → (c : Char) → FlagSet → Parser FlagSet
  | 0, _, _ => fail (.missing ":") 0
  | fuel + 1, c, removed => do
    if c = 'a' ∨ c = 'u' ∨ c = 'L' then fail .alphabetOff 0
    else
      match ← take with
      | none => fail (.missing ":") 0
      | some (.plain d) =>
        if d = ':' then return removed ++ [c]
        else if d ∈ flagLetters then flagsOff fuel d (removed ++ [c])
        else refuseFlag (.missing ":") (.plain d)
      | some t => refuseFlag (.missing ":") t

/-- The flags of a group, starting with `c`: those turned on and off for the group, or nothing when they
are for the whole pattern. -/
def flags (c : Char) : Parser (Option (FlagSet × FlagSet)) := do
  let (added, mark) ← if c = '-' then pure ([], '-') else flagsOn (← fuel) c []
  if mark = ')' then
    modify fun r => { r with globals := r.globals ++ added }
    return none
  else if 't' ∈ added then fail .globalFlagOn 1
  else
    let removed ←
      if mark = '-' then
        match ← take with
        | none => fail (.missing "flag") 0
        | some (.plain d) =>
          if d ∈ flagLetters then flagsOff (← fuel) d [] else refuseFlag (.missing "flag") (.plain d)
        | some t => refuseFlag (.missing "flag") t
      else pure []
    if 't' ∈ removed then fail .globalFlagOff 1
    else if added.any (· ∈ removed) then fail .flagOnAndOff 1
    else return some (added, removed)

/-! ## Repetitions -/

def count (digits : List Char) : Parser Nat :=
  if Text.Number.digitLimit < digits.length then throw (.fault (.countTooLong digits.length))
  else
    let n := numberOf 10 digits
    if repeatLimit ≤ n then throw (.fault .repetitionTooLarge) else return n

/-- The counts of a repetition in braces, after the opening one. Anything else there is no repetition, and
nothing is read. -/
def braces : Parser (Option (Nat × Option Nat)) := do
  let start ← get
  if (← peek) = some (.plain '\x7d') then return none
  else
    let low ← some_ Char.isDigit start.rest.length
    let comma ← accept ','
    -- A single count is both the least and the greatest.
    let high ← if comma then some_ Char.isDigit start.rest.length else pure low
    if ← accept '\x7d' then
      let least ← if low = [] then pure 0 else count low
      if high = [] then return some (least, none)
      else
        let most ← count high
        if most < least then failAt .repeatOrder start.position else return some (least, some most)
    else
      set start
      return none

/-- The counts of a repetition, after its first character. -/
def repetition (c : Char) : Parser (Option (Nat × Option Nat)) :=
  if c = '?' then return some (0, some 1)
  else if c = '*' then return some (0, none)
  else if c = '+' then return some (1, none)
  else if c = '\x7b' then braces
  else return none

def greed : Parser Greed := do
  if ← accept '?' then return .lazy
  else if ← accept '+' then return .possessive
  else return .greedy

/-! ## Sequences, alternatives and groups -/

/-- What a part of a sequence is to a repetition after it. -/
inductive Role where
  | item | anchor | repetition
  deriving DecidableEq, Repr

structure Piece where
  node : Node
  role : Role

/-- The sequence of parts, the last one first. -/
def join : List Node → Node
  | [] => .empty
  | [n] => n
  | n :: rest => .seq n (join rest)

def sequenceOf (done : List Piece) : Node := join (done.reverse.map (·.node))

def escape (f : FlagSet) (c : Char) : Parser Piece := do
  match anchor? f c, category? f c, controlCode? c, spelled? c with
  | some a, _, _, _ => return ⟨.anchor a, .anchor⟩
  | _, some item, _, _ => return ⟨.char (.set false .exact [item]), .item⟩
  | _, _, some n, _ => return ⟨.char (.code f.folding n), .item⟩
  | _, _, _, some code => return ⟨.char (.code f.folding (← code)), .item⟩
  | _, _, _, _ =>
    if c.isDigit then return ⟨← digitEscape f c, .item⟩
    else return ⟨.char (.code f.folding (← literal c)), .item⟩

/-- A character that stands for itself or, alone, for something else. -/
def single (f : FlagSet) (c : Char) : Piece :=
  if c = '.' then ⟨.char (.any ('s' ∈ f)), .item⟩
  else if c = '^' then ⟨.anchor (if 'm' ∈ f then .lineStart else .textStart), .anchor⟩
  else if c = '$' then ⟨.anchor (if 'm' ∈ f then .lineEnd else .lastLineEnd), .anchor⟩
  else ⟨.char (.code f.folding c.toNat), .item⟩

/-- The last part, repeated. `start` is where the repetition is written. -/
def repeatLast (start least : Nat) (most : Option Nat) : List Piece → Parser (List Piece)
  | [] => failAt .nothingToRepeat start
  | p :: done =>
    match p.role with
    | .anchor => failAt .nothingToRepeat start
    | .repetition => failAt .multipleRepeat start
    | .item => do return ⟨.repeated (← greed) least most p.node, .repetition⟩ :: done

/-- Whether the token is white space that a verbose pattern passes over. -/
def isLayout (t : Token) : Bool :=
  match t with
  | .plain c => c == ' ' || (9 ≤ c.toNat && c.toNat ≤ 13)
  | .escaped _ => false

inductive Opened where
  | piece (p : Piece)
  | comment
  /-- Flags for the whole pattern. -/
  | flags

inductive Opening where
  | comment
  | flags
  | reference (n : Node)
  | look (behind outside : Bool)
  | condition (number : Nat)
  | plain (added removed : FlagSet)
  | atomic
  | capture (name : Option String)

/-- The number of the group a condition refers to. -/
def conditionGroup : Parser Nat := do
  let name ← untilMark ')' "group name"
  let back := name.length + 1
  if Text.Class.isIdentifier name.toList then numberNamed name
  else
    match Text.Number.int? name with
    | .ok (.ofNat 0) => fail .groupNumber back
    | .ok (.ofNat number) =>
      if 2147483647 ≤ number then fail (.groupReference number) back
      else
        -- The group may be opened further on. Whether it is, is seen at the end of the pattern.
        modify fun r =>
          if r.references.any (·.1 == number) then r
          else { r with references := r.references ++ [(number, r.position - back)] }
        return number
    | _ => fail (.groupName name) back

def opening (f : FlagSet) : Parser Opening := do
  let start := (← get).position - 1
  if !(← accept '?') then return .capture none
  else
    match ← take with
    | none => fail .endOfPattern 0
    | some t =>
      let refused := fail (.extension ("?" ++ t.text)) (t.chars.length + 1)
      match t with
      | .escaped _ => refused
      | .plain c =>
        if c = 'P' then
          if ← accept '<' then return .capture (some (← groupName '>'))
          else if ← accept '=' then
            let name ← groupName ')'
            return .reference (← reference f (← numberNamed name) (name.length + 1))
          else
            match ← take with
            | none => fail .endOfPattern 0
            | some u => fail (.extension ("?P" ++ u.text)) (u.chars.length + 2)
        else if c = ':' then return .plain [] []
        else if c = '#' then
          if ← skipPast ')' (← fuel) then return .comment
          else failAt .unterminatedComment start
        else if c = '=' then return .look false false
        else if c = '!' then return .look false true
        else if c = '<' then
          match ← take with
          | none => fail .endOfPattern 0
          | some (.plain '=') => return .look true false
          | some (.plain '!') => return .look true true
          | some u => fail (.extension ("?<" ++ u.text)) (u.chars.length + 2)
        else if c = '(' then
          let number ← conditionGroup
          checkLookbehind number
          return .condition number
        else if c = '>' then return .atomic
        else if c ∈ flagLetters ∨ c = '-' then
          match ← flags c with
          | none => return .flags
          | some (added, removed) => return .plain added removed
        else refused

def openGroup (name : Option String) : Parser Nat := do
  let r ← get
  let number := r.groups
  match name with
  | none =>
    set { r with groups := number + 1 }
    return number
  | some name =>
    match (r.names.find? (·.1 == name)).map (·.2) with
    | some earlier => fail (.redefinition name number earlier) (name.length + 1)
    | none =>
      set { r with groups := number + 1, names := (name, number) :: r.names }
      return number

def close (start : Nat) : Parser Unit := do
  if ← accept ')' then return () else failAt .unterminatedGroup start

mutual

/-- Reads alternatives. At the top, flags for the whole pattern may come first. -/
def alternatives : (fuel : Nat) → (top : Bool) → FlagSet → Parser Node
  | 0, _, _ => fail .endOfPattern 0
  | fuel + 1, top, f => do
    let first ← sequence fuel top f []
    moreAlternatives fuel top f first

/-- Reads the alternatives after the first. -/
def moreAlternatives : (fuel : Nat) → (top : Bool) → FlagSet → Node → Parser Node
  | 0, _, _, first => return first
  | fuel + 1, top, f, first => do
    if ← accept '|' then
      let globals := (← get).globals
      -- What the first alternative has set for the whole pattern holds in the others as well.
      let f := if top then globals else f
      let second ← sequence fuel false f []
      return .alt first (← moreAlternatives fuel top f second)
    else return first

/-- Reads a sequence, after the parts that are done, the last one first. `first` says that it is the first
alternative at the top. -/
def sequence : (fuel : Nat) → (first : Bool) → FlagSet → List Piece → Parser Node
  | 0, _, _, _ => fail .endOfPattern 0
  | fuel + 1, first, f, done => do
    let start := (← get).position
    match ← peek with
    | none => return sequenceOf done
    | some t =>
      if t = .plain '|' ∨ t = .plain ')' then return sequenceOf done
      else
        advance
        if 'x' ∈ f ∧ isLayout t then sequence fuel first f done
        else if 'x' ∈ f ∧ t = .plain '#' then
          let _ ← skipPast '\n' (← Parser.fuel)
          sequence fuel first f done
        else
          match t with
          | .escaped c => do sequence fuel first f ((← escape f c) :: done)
          | .plain '[' => do sequence fuel first f (⟨← set_ f, .item⟩ :: done)
          | .plain '(' => do
            match ← group fuel (first && done.isEmpty) f with
            | .piece p => sequence fuel first f (p :: done)
            | .comment => sequence fuel first f done
            | .flags => do sequence fuel first (← get).globals done
          | .plain c => do
            match ← repetition c with
            | some (least, most) => do
              sequence fuel first f (← repeatLast start least most done)
            | none => sequence fuel first f (single f c :: done)

def group : (fuel : Nat) → (mayFlag : Bool) → FlagSet → Parser Opened
  | 0, _, _ => fail .endOfPattern 0
  | fuel + 1, mayFlag, f => do
    let start := (← get).position - 1
    let item := fun n => Opened.piece ⟨n, .item⟩
    match ← opening f with
    | .comment => return .comment
    | .flags => if mayFlag then return .flags else failAt .lateFlags start
    | .reference n => return item n
    | .look behind outside => do
      -- Of nested look behinds the outermost counts: only groups before it may be referred to.
      let outer := (← get).lookbehind
      if behind then modify fun r => { r with lookbehind := some (outer.getD r.groups) }
      let n ← alternatives fuel false f
      if behind then modify fun r => { r with lookbehind := outer }
      close start
      return item (if behind then .behind outside n.width n else .ahead outside n)
    | .condition number => do
      let yes ← sequence fuel false f []
      let no ←
        if ← accept '|' then do
          let no ← sequence fuel false f []
          if (← peek) = some (.plain '|') then fail .branches 0
          pure no
        else pure .empty
      close start
      return item (.whether number yes no)
    | .atomic => do
      let n ← alternatives fuel false f
      close start
      return item (.atomic n)
    | .plain added removed => do
      let n ← alternatives fuel false (f.combine added removed)
      close start
      return item n
    | .capture name => do
      let number ← openGroup name
      let n ← alternatives fuel false f
      close start
      modify fun r => { r with widths := (number, n.width) :: r.widths }
      return item (.group number n)

end

def pattern : Parser (Node × FlagSet) := do
  let r ← get
  checkToken r.rest r.position
  let n ← alternatives (3 * r.rest.length + 3) true []
  let r ← get
  if 'a' ∈ r.globals ∧ 'u' ∈ r.globals then throw (.fault .clashingAlphabets)
  else if r.rest ≠ [] then fail .parenthesis 0
  else
    match r.references.find? fun (number, _) => r.groups ≤ number with
    | some (number, position) => failAt (.groupReference number) position
    | none => return (n, r.globals)

end Parser

/-! ## The last check -/

/-- The name of a repetition in a message. -/
def Greed.operator : Greed → String
  | .greedy => "MAX_REPEAT"
  | .lazy => "MIN_REPEAT"
  | .possessive => "POSSESSIVE_REPEAT"

/-- What a pattern may not hold although it can be read: a look behind of varying width, and under the
template flag any repetition. -/
def Node.defect? (template : Bool) : Node → Option Cause
  | .seq a b => a.defect? template <|> b.defect? template
  | .alt a b => a.defect? template <|> b.defect? template
  | .repeated greed _ _ body => if template then some (.template greed.operator) else body.defect? template
  | .group _ body => body.defect? template
  | .atomic body => body.defect? template
  | .ahead _ body => body.defect? template
  | .behind _ width body =>
    if 4294967295 < width.least then some .lookbehindLimit
    else if width.least ≠ width.most then some .lookbehindWidth
    else body.defect? template
  | .whether _ yes no => yes.defect? template <|> no.defect? template
  | _ => none

/-- The pattern a text stands for. -/
def parse (text : String) : Except Refusal Node :=
  match Parser.pattern.run ⟨text.toList, 0, [], 1, [], [], none, []⟩ with
  | .error e => .error e
  | .ok ((n, globals), _) =>
    match n.defect? ('t' ∈ globals) with
    | some cause => .error (.error ⟨cause, none⟩)
    | none => .ok n

end FeedSieve.Pattern
