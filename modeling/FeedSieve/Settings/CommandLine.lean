import FeedSieve.Settings.Files
import FeedSieve.Text.Class.Digit
import FeedSieve.Text.Number
import FeedSieve.Text.Quoted

/-!
# The command line

Every argument is read as an option or as a plain word before any is acted on. A long option may be
shortened as long as it stays unique, its value may follow an equals sign, and the value of a short option
may follow it at once. There is no place for plain words. The request for help ends reading at once.
-/
namespace FeedSieve.Settings.CommandLine

/-! ## Options -/

inductive Flag where
  | help | config | host | port | debug
  deriving DecidableEq, Repr

/-- The spellings of the options, in the order in which messages list them. -/
def spellings : List (String × Flag) := [("-h", .help), ("--help", .help), ("-c", .config),
  ("--config", .config), ("--host", .host), ("--port", .port), ("--debug", .debug)]

/-- The option with exactly this spelling. -/
def flag? (spelling : String) : Option Flag :=
  (spellings.find? (·.1 == spelling)).map (·.2)

/-- The name of an option in messages: all its spellings. -/
def Flag.name (f : Flag) : String := "/".intercalate ((spellings.filter (·.2 == f)).map (·.1))

def Flag.takesValue : Flag → Bool
  | .help => false
  | .debug => false
  | _ => true

structure Arguments where
  config : Option String
  host : Option String
  port : Option Int
  debug : Bool
  deriving DecidableEq, Repr

inductive Misuse where
  | ambiguous (argument : String) (candidates : List String)
  | ignoredValue (option : Flag) (value : String)
  | noValue (option : Flag)
  | notInteger (option : Flag) (value : String)
  | unrecognized (arguments : List String)
  deriving DecidableEq, Repr

def Misuse.message : Misuse → String
  | .ambiguous argument candidates =>
    "ambiguous option: " ++ argument ++ " could match " ++ ", ".intercalate candidates
  | .ignoredValue option value =>
    "argument " ++ option.name ++ ": ignored explicit argument " ++ Text.Quoted.quote value
  | .noValue option => "argument " ++ option.name ++ ": expected one argument"
  | .notInteger option value =>
    "argument " ++ option.name ++ ": invalid int value: " ++ Text.Quoted.quote value
  | .unrecognized arguments => "unrecognized arguments: " ++ " ".intercalate arguments

/-! ## What an argument is -/

/-- A value that an argument holds, and whether an equals sign stands before it. -/
structure Attached where
  value : List Char
  afterSign : Bool

inductive Word where
  /-- No option. -/
  | plain (text : String)
  /-- Something like an option that is none. -/
  | unknown (text : String)
  /-- An option, perhaps with a value. -/
  | option (flag : Flag) (attached : Option Attached)
  /-- Two hyphens, after which every argument is plain. -/
  | separator

/-- Whether a text looks like a negative number. -/
def isNegativeNumber (s : List Char) : Bool :=
  let isDigit := fun c => (Text.Class.digitValue? c).isSome
  match s with
  | '-' :: rest =>
    let body := if rest.getLast? = some '\n' then rest.dropLast else rest
    let whole := body.takeWhile isDigit
    match body.dropWhile isDigit with
    | [] => whole ≠ []
    | '.' :: fraction => fraction ≠ [] && fraction.all isDigit
    | _ => false
  | _ => false

/-- The part of an argument before an equals sign, and the value after it. -/
def splitSign (argument : String) : String × Option Attached :=
  let before := argument.toList.takeWhile (· ≠ '=')
  match argument.toList.dropWhile (· ≠ '=') with
  | [] => (argument, none)
  | _ :: value => (String.ofList before, some ⟨value, true⟩)

/-- The options that an argument may mean, with the value it holds. -/
def candidates (argument : String) : List (String × Flag) × Option Attached :=
  if "--".toList.isPrefixOf argument.toList then
    let (name, attached) := splitSign argument
    (spellings.filter fun p => name.toList.isPrefixOf p.1.toList, attached)
  else
    (spellings.filter fun p => p.1.toList == argument.toList.take 2,
      some ⟨argument.toList.drop 2, false⟩)

/-- What an argument that is no exact spelling is. -/
def looseWord (argument : String) : Except Misuse Word :=
  match candidates argument with
  | ([(_, f)], attached) => .ok (.option f attached)
  | ([], _) =>
    if isNegativeNumber argument.toList ∨ ' ' ∈ argument.toList then .ok (.plain argument)
    else .ok (.unknown argument)
  | (several, _) => .error (.ambiguous argument (several.map (·.1)))

def wordOf (argument : String) : Except Misuse Word :=
  if argument.toList.head? ≠ some '-' then .ok (.plain argument)
  else match flag? argument with
    | some f => .ok (.option f none)
    | none =>
      if argument = "-" then .ok (.plain argument)
      else
        let (name, attached) := splitSign argument
        match attached, flag? name with
        | some _, some f => .ok (.option f attached)
        | _, _ => looseWord argument

def wordsOf : List String → Except Misuse (List (String × Word))
  | [] => .ok []
  | "--" :: rest => .ok (("--", .separator) :: rest.map fun s => (s, .plain s))
  | argument :: rest => do
    let word ← wordOf argument
    return (argument, word) :: (← wordsOf rest)

/-! ## Reading -/

inductive Ending where
  | help
  | misuse (cause : Misuse)
  deriving DecidableEq, Repr

def store (f : Flag) (value : String) (a : Arguments) : Except Ending Arguments :=
  match f with
  | .help => .error .help
  | .config => .ok { a with config := some value }
  | .host => .ok { a with host := some value }
  | .port =>
    match Text.Number.int? value with
    | .ok n => .ok { a with port := some n }
    | .error _ => .error (.misuse (.notInteger f value))
  | .debug => .ok { a with debug := true }

/-- What a value attached to options leads to. -/
inductive Cluster where
  /-- The last option and its value. -/
  | value (option : Flag) (text : String)
  /-- The last option, whose value may follow. -/
  | bare (option : Flag)
  /-- Letters that are no option. -/
  | stray

/-- Reads the value attached to an option. Behind a short option without a value stand more of them. -/
def cluster (f : Flag) (isShort : Bool) (afterSign : Bool) : List Char → Except Misuse Cluster
  | [] => if f.takesValue then .ok (.value f "") else .error (.ignoredValue f "")
  | c :: rest =>
    let text := String.ofList (c :: rest)
    if f.takesValue then .ok (.value f text)
    else if !isShort || afterSign || c = '-' then .error (.ignoredValue f text)
    else match flag? (String.ofList ['-', c]) with
      | none => .ok .stray
      | some g =>
        match rest with
        | [] => .ok (.bare g)
        | '=' :: rest => cluster g true true rest
        | d :: rest => cluster g true false (d :: rest)

/-- Acts on an option with the arguments behind it. -/
def useFlag (f : Flag) (a : Arguments) (rest : List (String × Word)) :
    Except Ending (Arguments × List (String × Word)) :=
  if f.takesValue then
    match rest with
    | (value, .plain _) :: rest => do return (← store f value a, rest)
    | _ => .error (.misuse (.noValue f))
  else do return (← store f "" a, rest)

/-- Acts on an option with a value attached to it. Letters behind a request for help are checked before
help is given. -/
def useAttached (f : Flag) (isShort : Bool) (attached : Attached) (a : Arguments)
    (rest : List (String × Word)) : Except Ending (Arguments × List (String × Word)) :=
  match cluster f isShort attached.afterSign attached.value with
  | .error cause => .error (.misuse cause)
  | .ok (.value g text) =>
    -- Only the request for help has a short form without a value. Where options stand behind one
    -- another, it comes first.
    if g = f then do return (← store g text a, rest) else .error .help
  | .ok (.bare g) => if g.takesValue then useFlag g a rest *> .error .help else .error .help
  | .ok .stray => .error .help

/-- Acts on the arguments in turn. The second result lists those that have no place. -/
def act : (most : Nat) → Arguments → List (String × Word) → Except Ending (Arguments × List String)
  | 0, a, _ => .ok (a, [])
  | _ + 1, a, [] => .ok (a, [])
  | most + 1, a, (argument, word) :: rest =>
    match word with
    | .option f none => do
      let (a, rest) ← useFlag f a rest
      act most a rest
    | .option f (some attached) => do
      let isShort := argument.toList.take 2 ≠ ['-', '-']
      let (a, rest) ← useAttached f isShort attached a rest
      act most a rest
    | _ => do
      let (a, strays) ← act most a rest
      return (a, argument :: strays)

def parse (arguments : List String) : Except Ending Arguments :=
  match wordsOf arguments with
  | .error cause => .error (.misuse cause)
  | .ok words => do
    let (a, strays) ← act (words.length + 1) ⟨none, none, none, false⟩ words
    if strays = [] then return a else .error (.misuse (.unrecognized strays))

end FeedSieve.Settings.CommandLine
