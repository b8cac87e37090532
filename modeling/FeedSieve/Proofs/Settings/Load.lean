import Mathlib.Control.Monad.Basic
import FeedSieve.Proofs.Settings.Table
import FeedSieve.Proofs.Settings.Toml.Document
import FeedSieve.Proofs.Text.Utf8
import FeedSieve.Startup

/-!
# Settings loaded from a file

Loading a file that exists gives settings, is refused, or breaks down. It breaks down exactly if the content is no
text, or the text holds an integer that is too long, or its table breaks reading down (`load_outcome`). The command
answers a refusal with the exit code 1, and passes a breakdown on.
-/
namespace FeedSieve.Settings

/-! ## The content of a file -/

/-- What loading a file with this content breaks down at. -/
inductive Broken (content : List UInt8) : Breakdown → Prop where
  /-- The content is not the bytes of any text. -/
  | undecodable {defect : Text.Utf8.Defect} (foreign : ∀ text, Text.Utf8.encode text ≠ content)
      (first : Text.Utf8.decode? content = .error defect) : Broken content (.undecodable defect)
  /-- The text holds an integer of too many digits, and reading comes to it. -/
  | tooManyDigits {text : List Char} {digits : Nat} (bytes : Text.Utf8.encode text = content)
      (held : Toml.Overlong text digits) (stopped : Toml.readDocument text = .error (.tooManyDigits digits)) :
      Broken content (.tooManyDigits digits)
  /-- The text holds a table that breaks reading down. -/
  | table {text : List Char} {entries : Toml.Entries} {b : Breakdown} (bytes : Text.Utf8.encode text = content)
      (read : Toml.readDocument text = .ok entries) (halts : Halts entries b) : Broken content b

section Content

variable {path : String} {content : List UInt8} {text : List Char} {entries : Toml.Entries}

theorem entriesOf_encode (path : String) (text : List Char) :
    entriesOf path (Text.Utf8.encode text) = match Toml.readDocument text with
      | .ok entries => .ok entries
      | .error (.refused message) => .error (.refused (.file path message))
      | .error (.tooManyDigits digits) => .error (.breakdown (.tooManyDigits digits)) := by
  have decoded := Text.Utf8.decode?_encode text
  unfold entriesOf
  split
  · rename_i defect undecoded
    cases decoded.symm.trans undecoded
  · rename_i same
    cases decoded.symm.trans same
    rfl

/-- The entries of a file are those that the text of its content holds. -/
theorem entriesOf_eq_ok_iff : entriesOf path content = .ok entries ↔
    ∃ text, Text.Utf8.encode text = content ∧ Toml.readDocument text = .ok entries := by
  constructor
  · intro read
    unfold entriesOf at read
    split at read
    · cases read
    · rename_i text decoded
      split at read
      · cases read
        exact ⟨text, Text.Utf8.decode?_eq_ok_iff.mp decoded, ‹_›⟩
      · cases read
      · cases read
  · rintro ⟨text, rfl, read⟩
    rw [entriesOf_encode, read]

theorem entriesOf_eq_breakdown_iff {b : Breakdown} : entriesOf path content = .error (.breakdown b) ↔
    (∃ defect, Text.Utf8.decode? content = .error defect ∧ .undecodable defect = b)
    ∨ ∃ text digits, Text.Utf8.encode text = content
      ∧ Toml.readDocument text = .error (.tooManyDigits digits) ∧ .tooManyDigits digits = b := by
  constructor
  · intro stopped
    unfold entriesOf at stopped
    split at stopped
    · cases stopped
      exact .inl ⟨_, ‹_›, rfl⟩
    · rename_i text decoded
      split at stopped
      · cases stopped
      · cases stopped
      · cases stopped
        exact .inr ⟨text, _, Text.Utf8.decode?_eq_ok_iff.mp decoded, ‹_›, rfl⟩
  · rintro (⟨defect, illFormed, rfl⟩ | ⟨text, digits, rfl, stopped, rfl⟩)
    · rw [entriesOf, illFormed]
    · rw [entriesOf_encode, stopped]

theorem entriesOf_ne_missing (path : String) (content : List UInt8) (absent : String) :
    entriesOf path content ≠ .error (.missing absent) := by
  unfold entriesOf
  split
  · nofun
  · split <;> nofun

end Content

/-- What the settings file holds: nothing if none is named and there is none in the usual place. -/
inductive FileHolds (look : String → Found) (process : Environment) (path : Option String) :
    Toml.Entries → Prop where
  | absent (unnamed : path = none) (free : look (filePath process path) = .nothing) : FileHolds look process path []
  | file {content : List UInt8} {text : List Char} {entries : Toml.Entries}
      (found : look (filePath process path) = .file content) (bytes : Text.Utf8.encode text = content)
      (read : Toml.readDocument text = .ok entries) : FileHolds look process path entries

/-- The address that the variable holds, if it is set and not empty. -/
inductive Supplied (process : Environment) : Option (String × Int) → Prop where
  | unset (free : process.nonEmpty? addressVariable = none) : Supplied process none
  | set {value : String} {address : String × Int} (held : process.nonEmpty? addressVariable = some value)
      (read : parseAddress value = .ok address) : Supplied process (some address)

/-- Settings that listen at an address, if there is one. -/
def Config.listeningAt (c : Config) : Option (String × Int) → Config
  | none => c
  | some (host, port) => { c with host, port }

/-! ## Loading -/

section Loading

variable {look : String → Found} {process overrides : Environment} {path : Option String} {content : List UInt8}

theorem fileEntries_of_file (found : look (filePath process path) = .file content) :
    fileEntries look process path = entriesOf (filePath process path) content := by
  unfold fileEntries entriesAt
  rw [found]
  dsimp only
  cases entriesOf (filePath process path) content <;> rfl

theorem fileEntries_eq_ok_iff {entries : Toml.Entries} :
    fileEntries look process path = .ok entries ↔ FileHolds look process path entries := by
  constructor
  · intro read
    cases found : look (filePath process path) with
    | file content =>
      rw [fileEntries_of_file found, entriesOf_eq_ok_iff] at read
      obtain ⟨text, bytes, read⟩ := read
      exact .file found bytes read
    | directory =>
      unfold fileEntries entriesAt at read
      rw [found] at read
      cases read
    | nothing =>
      -- Only where no file is named may there be none.
      unfold fileEntries entriesAt at read
      rw [found] at read
      cases path with
      | none =>
        cases read
        exact .absent rfl found
      | some path => cases read
  · intro holds
    cases holds with
    | absent unnamed free =>
      subst unnamed
      unfold fileEntries entriesAt
      rw [free]
      rfl
    | file found bytes read =>
      rw [fileEntries_of_file found, entriesOf_eq_ok_iff]
      exact ⟨_, bytes, read⟩

/-- A variable gives settings or is refused. -/
theorem withAddress_cases (overrides : Environment) (c : Config) :
    (∃ c', c.withAddress overrides = .ok c') ∨ ∃ cause, c.withAddress overrides = .error (.refused cause) := by
  unfold Config.withAddress
  split
  · exact .inl ⟨_, rfl⟩
  · split
    · exact .inl ⟨_, rfl⟩
    · exact .inr ⟨_, rfl⟩

theorem withAddress_eq_ok_iff {base c : Config} : base.withAddress overrides = .ok c ↔
    ∃ address, Supplied overrides address ∧ base.listeningAt address = c := by
  constructor
  · intro stored
    unfold Config.withAddress at stored
    split at stored
    · rename_i free
      cases stored
      exact ⟨none, .unset free, rfl⟩
    · rename_i value held
      split at stored
      · rename_i read
        cases stored
        exact ⟨some _, .set held read, rfl⟩
      · cases stored
  · rintro ⟨address, supplied, rfl⟩
    unfold Config.withAddress
    cases supplied with
    | unset free =>
      rw [free]
      rfl
    | set held read =>
      rw [held]
      dsimp only
      rw [read]
      rfl

/-- Loading gives settings if the file, its table and the variable can be read, and then those of the table, with
what the variables override. -/
theorem load_eq_ok_iff {c : Config} : Config.load look process overrides path = .ok c ↔
    ∃ entries base address, FileHolds look process path entries ∧ Config.ofTable entries = .ok base
      ∧ Supplied overrides address ∧ (base.listeningAt address).withLogLevel overrides = c := by
  unfold Config.load
  simp only [Traced.bind_eq_ok_iff, fileEntries_eq_ok_iff, withAddress_eq_ok_iff]
  constructor
  · rintro ⟨entries, file, base, read, _, ⟨address, supplied, rfl⟩, same⟩
    exact ⟨entries, base, address, file, read, supplied, Except.ok.inj same⟩
  · rintro ⟨entries, base, address, file, read, supplied, rfl⟩
    exact ⟨entries, file, base, read, _, ⟨address, supplied, rfl⟩, rfl⟩

/-- What fails in loading is the reading of the file, of its table, or of the address that a variable holds. -/
theorem load_eq_error_iff {e : Error} (found : look (filePath process path) = .file content) :
    Config.load look process overrides path = .error e ↔ entriesOf (filePath process path) content = .error e
      ∨ ∃ entries, entriesOf (filePath process path) content = .ok entries ∧ (Config.ofTable entries = .error e
        ∨ ∃ c, Config.ofTable entries = .ok c ∧ c.withAddress overrides = .error e) := by
  unfold Config.load
  rw [fileEntries_of_file found]
  simp [Traced.bind_eq_error_iff, pure, Except.pure]

theorem load_eq_breakdown_iff {b : Breakdown} (found : look (filePath process path) = .file content) :
    Config.load look process overrides path = .error (.breakdown b) ↔ Broken content b := by
  rw [load_eq_error_iff found, entriesOf_eq_breakdown_iff]
  simp only [entriesOf_eq_ok_iff, ofTable_eq_breakdown_iff]
  constructor
  · rintro ((⟨defect, illFormed, rfl⟩ | ⟨text, digits, bytes, stopped, rfl⟩)
      | ⟨entries, ⟨text, bytes, read⟩, halts | ⟨c, -, address⟩⟩)
    · refine .undecodable (fun text bytes => ?_) illFormed
      rw [Text.Utf8.decode?_eq_ok_iff.mpr bytes] at illFormed
      cases illFormed
    · exact .tooManyDigits bytes (Toml.overlong_of_readDocument stopped) stopped
    · exact .table bytes read halts
    · rcases withAddress_cases overrides c with ⟨c', same⟩ | ⟨cause, same⟩ <;> cases same.symm.trans address
  · rintro (⟨-, illFormed⟩ | ⟨bytes, -, stopped⟩ | ⟨bytes, read, halts⟩)
    · exact .inl (.inl ⟨_, illFormed, rfl⟩)
    · exact .inl (.inr ⟨_, _, bytes, stopped, rfl⟩)
    · exact .inr ⟨_, ⟨_, bytes, read⟩, .inl halts⟩

theorem load_ne_missing (found : look (filePath process path) = .file content) (absent : String) :
    Config.load look process overrides path ≠ .error (.missing absent) := by
  rw [ne_eq, load_eq_error_iff found]
  rintro (missing | ⟨entries, -, missing | ⟨c, -, missing⟩⟩)
  · exact entriesOf_ne_missing _ _ absent missing
  · exact ofTable_ne_missing entries absent missing
  · rcases withAddress_cases overrides c with ⟨c', same⟩ | ⟨cause, same⟩ <;> cases same.symm.trans missing

theorem load_answered (found : look (filePath process path) = .file content) :
    AnsweredUnless (Broken content) (Config.load look process overrides path) :=
  .of_breakdown_iff (load_ne_missing found) fun _ => load_eq_breakdown_iff found

end Loading

/-! ## Starting up -/

/-- Settings have no address to announce if their port has too many digits. -/
theorem address?_eq_none_iff (c : Config) : c.address? = none ↔ Value.HoldsLong (.integer c.port) := by
  rw [Config.address?, Option.map_eq_none_iff, ← Value.display?_eq_none_iff]
  rfl

theorem address?_eq_some_iff (c : Config) (address : String) :
    c.address? = some address ↔ ¬ Value.HoldsLong (.integer c.port) ∧ address = c.address := by
  rw [← address?_eq_none_iff, Config.address?]
  cases Value.integerText? c.port <;> simp [eq_comm]

/-- Settings that the command serves with, or a breakdown where they have no address to announce. -/
theorem start_of_configured {look : String → Found} {process : Environment} {arguments : List String}
    {a : CommandLine.Arguments} {c : Config} (given : CommandLine.parse arguments = .ok a)
    (configured : Startup.configure look process a = .ok c) :
    Startup.start look process arguments = match c.address? with
      | some address => .ok (.serves c address)
      | none => .error .unprintable := by
  unfold Startup.start
  rw [given]
  dsimp only
  cases written : c.address? <;> simp only [configured, written]

/-- Reading a table gives settings or is refused unless it halts, and loading an existing file does unless it is
broken, whatever the variables are. The command, with any arguments that lead to the file, serves with settings or
answers with a message and the exit code 1 unless the file is broken or the port has too many digits to be announced,
and breaks down if it is or has. -/
theorem load_outcome {look : String → Found} {process : Environment} {path : Option String}
    {content : List UInt8} (found : look (filePath process path) = .file content) :
    (∀ data, AnsweredUnless (Halts data) (Config.ofTable data))
    ∧ (∀ overrides, AnsweredUnless (Broken content) (Config.load look process overrides path))
    ∧ ∀ arguments a, CommandLine.parse arguments = .ok a → a.config = path →
      (∀ b, Startup.start look process arguments = .error b ↔ Broken content b ∨ b = .unprintable
        ∧ ∃ c, Startup.configure look process a = .ok c ∧ Value.HoldsLong (.integer c.port))
      ∧ ∀ outcome, Startup.start look process arguments = .ok outcome →
        (∃ c, Startup.configure look process a = .ok c ∧ outcome = .serves c c.address)
        ∨ ∃ cause : Refusal, Config.load look process process path = .error (.refused cause)
          ∧ outcome = .exits 1 "" ("Error loading configuration: " ++ cause.message ++ "\n") := by
  refine ⟨ofTable_answered, fun overrides => load_answered found, ?_⟩
  rintro arguments a given rfl
  have broken (b : Breakdown) :
      Config.load look process process a.config = .error (.breakdown b) ↔ Broken content b :=
    load_eq_breakdown_iff found
  simp only [← broken, ← address?_eq_none_iff]
  cases loaded : Config.load look process process a.config with
  | ok c =>
    have configured : Startup.configure look process a = .ok (Startup.override a c) := by
      rw [Startup.configure, loaded]
      rfl
    rw [start_of_configured given configured, configured]
    cases written : (Startup.override a c).address? with
    | none => simp [written, eq_comm]
    | some address =>
      obtain ⟨-, -, rfl⟩ := Option.map_eq_some_iff.mp written
      simp [written]
  | error e =>
    have unconfigured : Startup.configure look process a = .error e := by
      rw [Startup.configure, loaded]
      rfl
    unfold Startup.start
    rw [given]
    dsimp only
    rw [unconfigured]
    cases e with
    | missing absent => exact absurd loaded (load_ne_missing found absent)
    | breakdown b => simp [eq_comm]
    | refused cause => simp [eq_comm]

def infinitePort : List UInt8 := Text.Utf8.encode "[Server]\nport = inf\n".toList

def lookInfinitePort (_ : String) : Found := .file infinitePort

theorem load_lookInfinitePort :
    Config.load lookInfinitePort ⟨[]⟩ ⟨[]⟩ none = .error (.breakdown .infinite) := by decide +kernel

theorem broken_infinitePort : Broken infinitePort .infinite :=
  (load_eq_breakdown_iff rfl).mp load_lookInfinitePort

/-- The command, called without arguments, stops at an infinite port in the usual place. -/
theorem load_outcome_infinitePort : Startup.start lookInfinitePort ⟨[]⟩ [] = .error .infinite := by
  have found : lookInfinitePort (filePath ⟨[]⟩ none) = .file infinitePort := rfl
  obtain ⟨-, -, command⟩ := load_outcome found
  exact ((command [] ⟨none, none, none, false⟩ rfl rfl).1 .infinite).mpr (.inl broken_infinitePort)

/-- Not every file gives settings or is refused: an infinite port in one is neither converted nor refused. -/
theorem not_all_files_answered : ¬ ∀ look process overrides path content,
    look (filePath process path) = .file content → (∃ c, Config.load look process overrides path = .ok c)
      ∨ ∃ cause, Config.load look process overrides path = .error (.refused cause) := by
  intro all
  have found : lookInfinitePort (filePath ⟨[]⟩ none) = .file infinitePort := rfl
  rcases all _ _ ⟨[]⟩ _ _ found with ⟨c, loaded⟩ | ⟨cause, refused⟩
  · cases load_lookInfinitePort.symm.trans loaded
  · cases load_lookInfinitePort.symm.trans refused

end FeedSieve.Settings
