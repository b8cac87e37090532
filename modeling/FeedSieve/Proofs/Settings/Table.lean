import FeedSieve.Proofs.Settings.Conversion
import FeedSieve.Proofs.Traced

/-!
# Settings read from a table

Reading stops at the first setting whose group is no table or whose value does not suit it. Most values that do
not suit are refused; `Setting.Breaks` tells the few that break reading down. A table that is read gives what it
holds, and the defaults where it holds nothing (`ofTable_eq_ok_iff`, `ofTable_eq_breakdown_iff`).
-/
namespace FeedSieve.Settings

/-! ## Which settings there are -/

inductive Setting where
  | logForm | host | port | logLevel | timeout | agent | prodid
  deriving DecidableEq

namespace Setting

def all : List Setting := [.logForm, .host, .port, .logLevel, .timeout, .agent, .prodid]

theorem mem_all (s : Setting) : s ∈ all := by
  cases s <;> decide

def group : Setting → String
  | .host | .port => "Server"
  | .logForm | .logLevel => "Logging"
  | .timeout | .agent => "Upstream"
  | .prodid => "General"

def name : Setting → String
  | .logForm => "format"
  | .host => "host"
  | .port => "port"
  | .logLevel => "level"
  | .timeout => "timeout"
  | .agent => "user_agent"
  | .prodid => "prodid"

/-! ## Which values they take -/

/-- The value can be converted for the setting: any for a text, unless it cannot be written. -/
def Suits (s : Setting) (v : Value) : Prop :=
  match s with
  | .logForm => ∃ form : LogForm, v = .text form.name
  | .port => HasInteger v
  | .timeout => HasReal v
  | .host | .logLevel | .agent | .prodid => ¬ v.HoldsLong

/-- Converting the value for the setting breaks down: a port that is infinite, a timeout that is an integer beyond
all finite numbers, and a form of the log that is none and cannot be shown in the message about it. -/
def Breaks (s : Setting) (v : Value) (b : Breakdown) : Prop :=
  match s with
  | .logForm => v.HoldsLong ∧ b = .unprintable
  | .port => (∃ negative, v = .real (.infinite negative)) ∧ b = .infinite
  | .timeout => (∃ n, v = .integer n ∧ Text.Binary64.overflow ≤ n.natAbs) ∧ b = .tooLarge
  | .host | .logLevel | .agent | .prodid => False

/-- The group is a table, and what it holds for the setting suits it. -/
def Passes (data : List (String × Value)) (s : Setting) : Prop :=
  ∃ entries, groupOf data s.group = .table entries ∧ ∀ v, Value.entry? entries s.name = some v → s.Suits v

/-- What reading the setting breaks down at: its group is no table, or its value breaks the conversion. -/
inductive Stops (data : List (String × Value)) (s : Setting) : Breakdown → Prop where
  | group (untabled : ∀ entries, groupOf data s.group ≠ .table entries) :
      Stops data s (.notATable (groupOf data s.group).kind)
  | value {entries : List (String × Value)} {v : Value} {b : Breakdown}
      (table : groupOf data s.group = .table entries) (entry : Value.entry? entries s.name = some v)
      (breaks : s.Breaks v b) : Stops data s b

end Setting

/-- What reading the table breaks down at: it stops at the first setting that it does not hold as it should. -/
def Halts (data : List (String × Value)) (b : Breakdown) : Prop :=
  ∃ before s after, Setting.all = before ++ s :: after ∧ (∀ r ∈ before, r.Passes data) ∧ s.Stops data b

/-- An outcome is settings or a refusal unless there is something that breaks it down, and then is that
breakdown. -/
structure AnsweredUnless (breaks : Breakdown → Prop) (outcome : Except Error Config) : Prop where
  answered : ((∃ c, outcome = .ok c) ∨ ∃ cause, outcome = .error (.refused cause)) ↔ ∀ b, ¬ breaks b
  broken : ∀ b, outcome = .error (.breakdown b) ↔ breaks b

/-- Where no file can be missing, it is enough to tell the breakdowns. -/
theorem AnsweredUnless.of_breakdown_iff {breaks : Breakdown → Prop} {outcome : Except Error Config}
    (present : ∀ path, outcome ≠ .error (.missing path))
    (broken : ∀ b, outcome = .error (.breakdown b) ↔ breaks b) : AnsweredUnless breaks outcome := by
  refine ⟨?_, broken⟩
  simp only [← broken]
  cases outcome with
  | ok c => simp
  | error e =>
    cases e with
    | refused cause => simp
    | missing path => exact absurd rfl (present path)
    | breakdown b => simp

/-! ## One setting -/

namespace Setting

/-- Converts a value for a setting. Only whether that succeeds is kept. -/
def read : Setting → Value → Except Error Unit
  | .logForm, v => (logFormOf v).map fun _ => ()
  | .port, v => (integerOf v).map fun _ => ()
  | .timeout, v => (realOf v).map fun _ => ()
  | .host, v | .logLevel, v | .agent, v | .prodid, v => (textOf v).map fun _ => ()

theorem read_eq_ok_iff {s : Setting} {v : Value} : s.read v = .ok () ↔ s.Suits v := by
  cases s with
  | logForm => simp [read, Suits, Traced.map_eq_ok_iff, logFormOf_ok_iff]
  | port => simp [read, Suits, Traced.map_eq_ok_iff, integerOf_ok_iff]
  | timeout => simp [read, Suits, Traced.map_eq_ok_iff, realOf_ok_iff]
  | _ => simp [read, Suits, Traced.map_eq_ok_iff, textOf_ok_iff]

theorem read_eq_breakdown_iff {s : Setting} {v : Value} {b : Breakdown} :
    s.read v = .error (.breakdown b) ↔ s.Breaks v b := by
  cases s with
  | logForm => rw [read, Traced.map_eq_error_iff, logFormOf_breakdown_iff, Breaks]
  | port => rw [read, Traced.map_eq_error_iff, integerOf_breakdown_iff, Breaks]
  | timeout => rw [read, Traced.map_eq_error_iff, realOf_breakdown_iff, Breaks]
  | _ => simp [read, Breaks, Traced.map_eq_error_iff, textOf_ne_breakdown v b]

theorem read_ne_missing (s : Setting) (v : Value) (path : String) : s.read v ≠ .error (.missing path) := by
  cases s with
  | logForm =>
    rw [read, ne_eq, Traced.map_eq_error_iff]
    rcases logFormOf_cases v with ⟨form, -, named⟩ | ⟨-, refused⟩
    · simp [named]
    · rw [refused]
      split <;> simp
  | port =>
    rw [read, ne_eq, Traced.map_eq_error_iff]
    unfold integerOf
    repeat' split
    all_goals simp
  | timeout =>
    rw [read, ne_eq, Traced.map_eq_error_iff]
    unfold realOf realOfInt
    repeat' split
    all_goals simp
  | _ =>
    rw [read, ne_eq, Traced.map_eq_error_iff, textOf]
    split <;> simp

/-- Reads a setting of a table. Only whether that succeeds is kept. -/
def check (data : List (String × Value)) (s : Setting) : Except Error Unit :=
  convert s.read () (groupOf data s.group) s.name

theorem check_of_untabled {data : List (String × Value)} {s : Setting}
    (untabled : ∀ entries, groupOf data s.group ≠ .table entries) :
    check data s = .error (.breakdown (.notATable (groupOf data s.group).kind)) := by
  unfold check convert settingOf
  cases group : groupOf data s.group with
  | table entries => exact absurd group (untabled entries)
  | _ => rfl

theorem check_of_table {data entries : List (String × Value)} {s : Setting}
    (table : groupOf data s.group = .table entries) :
    check data s = match Value.entry? entries s.name with
      | some v => s.read v
      | none => .ok () := by
  rw [check, table]
  rfl

theorem tabled_or_untabled (data : List (String × Value)) (s : Setting) :
    (∃ entries, groupOf data s.group = .table entries) ∨ ∀ entries, groupOf data s.group ≠ .table entries := by
  cases groupOf data s.group with
  | table entries => exact .inl ⟨entries, rfl⟩
  | _ => exact .inr nofun

theorem check_eq_ok_iff {data : List (String × Value)} {s : Setting} :
    check data s = .ok () ↔ s.Passes data := by
  unfold Passes
  rcases tabled_or_untabled data s with ⟨entries, table⟩ | untabled
  · rw [check_of_table table, table]
    cases entry : Value.entry? entries s.name with
    | none => exact iff_of_true rfl ⟨entries, rfl, by simp [entry]⟩
    | some v => simp [read_eq_ok_iff, entry]
  · rw [check_of_untabled untabled]
    exact iff_of_false nofun fun ⟨entries, table, _⟩ => untabled entries table

theorem check_eq_breakdown_iff {data : List (String × Value)} {s : Setting} {b : Breakdown} :
    check data s = .error (.breakdown b) ↔ s.Stops data b := by
  rcases tabled_or_untabled data s with ⟨entries, table⟩ | untabled
  · rw [check_of_table table]
    constructor
    · intro stopped
      split at stopped
      · rename_i v entry
        exact .value table entry (read_eq_breakdown_iff.mp stopped)
      · cases stopped
    · rintro (⟨untabled⟩ | ⟨table', entry, breaks⟩)
      · exact absurd table (untabled entries)
      · cases table.symm.trans table'
        rw [entry]
        exact read_eq_breakdown_iff.mpr breaks
  · rw [check_of_untabled untabled]
    constructor
    · intro stopped
      cases stopped
      exact .group untabled
    · rintro (⟨-⟩ | ⟨table, -, -⟩)
      · rfl
      · exact absurd table (untabled _)

theorem check_ne_missing (data : List (String × Value)) (s : Setting) (path : String) :
    check data s ≠ .error (.missing path) := by
  rcases tabled_or_untabled data s with ⟨entries, table⟩ | untabled
  · rw [check_of_table table]
    split
    · exact read_ne_missing s _ path
    · nofun
  · rw [check_of_untabled untabled]
    nofun

end Setting

/-! ## All settings -/

/-- What a table holds for a setting, converted. -/
def written? {α : Type} (read : Value → Except Error α) (data : List (String × Value)) (s : Setting) :
    Option α :=
  match groupOf data s.group with
  | .table entries => (Value.entry? entries s.name).bind fun v => (read v).toOption
  | _ => none

/-- The settings that a table holds, and the defaults for those it does not. -/
def Config.written (data : List (String × Value)) : Config where
  host := (written? textOf data .host).getD defaults.host
  port := (written? integerOf data .port).getD defaults.port
  logLevel := Text.Case.upper ((written? textOf data .logLevel).getD defaults.logLevel)
  logForm := (written? logFormOf data .logForm).getD defaults.logForm
  timeout := (written? realOf data .timeout).getD defaults.timeout
  agent := (written? textOf data .agent).getD defaults.agent
  prodid := (written? textOf data .prodid).getD defaults.prodid

theorem convert_eq_ok {α : Type} {read : Value → Except Error α} {fallback a : α}
    {data : List (String × Value)} {s : Setting}
    (converted : convert read fallback (groupOf data s.group) s.name = .ok a) :
    (written? read data s).getD fallback = a := by
  unfold written?
  cases group : groupOf data s.group with
  | table entries =>
    rw [group] at converted
    dsimp only
    cases entry : Value.entry? entries s.name with
    | none =>
      simp only [convert, settingOf, entry] at converted
      exact Except.ok.inj converted
    | some v =>
      simp only [convert, settingOf, entry] at converted
      change read v = .ok a at converted
      simp [converted, Except.toOption]
  | _ =>
    rw [group] at converted
    cases converted

/-- Whether a setting is read does not depend on what becomes of its value. -/
theorem convert_map {α : Type} (read : Value → Except Error α) (fallback : α) (group : Value) (name : String) :
    (convert read fallback group name).map (fun _ => ())
      = convert (fun v => (read v).map fun _ => ()) () group name := by
  unfold convert
  cases settingOf group name with
  | error e => rfl
  | ok found => cases found <;> rfl

/-- A table is read as its settings are, one behind the other. -/
theorem ofTable_map (data : List (String × Value)) : (Config.ofTable data).map (fun _ => ())
    = (Setting.all.mapM (Setting.check data)).map fun _ => () := by
  have logForm : Setting.check data .logForm = _ :=
    (convert_map logFormOf defaults.logForm (groupOf data "Logging") "format").symm
  have host : Setting.check data .host = _ :=
    (convert_map textOf defaults.host (groupOf data "Server") "host").symm
  have port : Setting.check data .port = _ :=
    (convert_map integerOf defaults.port (groupOf data "Server") "port").symm
  have logLevel : Setting.check data .logLevel = _ :=
    (convert_map textOf defaults.logLevel (groupOf data "Logging") "level").symm
  have timeout : Setting.check data .timeout = _ :=
    (convert_map realOf defaults.timeout (groupOf data "Upstream") "timeout").symm
  have agent : Setting.check data .agent = _ :=
    (convert_map textOf defaults.agent (groupOf data "Upstream") "user_agent").symm
  have prodid : Setting.check data .prodid = _ :=
    (convert_map textOf defaults.prodid (groupOf data "General") "prodid").symm
  unfold Config.ofTable Setting.all
  simp only [List.mapM_cons, List.mapM_nil, logForm, host, port, logLevel, timeout, agent, prodid]
  -- Both sides stop at the first setting that fails, and go through them in the same order.
  cases convert logFormOf defaults.logForm (groupOf data "Logging") "format" with
  | error e => rfl
  | ok form =>
  cases convert textOf defaults.host (groupOf data "Server") "host" with
  | error e => rfl
  | ok host =>
  cases convert integerOf defaults.port (groupOf data "Server") "port" with
  | error e => rfl
  | ok port =>
  cases convert textOf defaults.logLevel (groupOf data "Logging") "level" with
  | error e => rfl
  | ok level =>
  cases convert realOf defaults.timeout (groupOf data "Upstream") "timeout" with
  | error e => rfl
  | ok timeout =>
  cases convert textOf defaults.agent (groupOf data "Upstream") "user_agent" with
  | error e => rfl
  | ok agent => cases convert textOf defaults.prodid (groupOf data "General") "prodid" <;> rfl

theorem exists_check_iff {data : List (String × Value)} {s : Setting} :
    (∃ u, Setting.check data s = .ok u) ↔ s.Passes data :=
  ⟨fun ⟨(), passed⟩ => Setting.check_eq_ok_iff.mp passed,
    fun passes => ⟨(), Setting.check_eq_ok_iff.mpr passes⟩⟩

theorem ofTable_eq_error_iff {data : List (String × Value)} {e : Error} :
    Config.ofTable data = .error e ↔ ∃ before s after, Setting.all = before ++ s :: after
      ∧ (∀ r ∈ before, r.Passes data) ∧ Setting.check data s = .error e := by
  rw [← Traced.map_eq_error_iff (f := fun _ => ()), ofTable_map, Traced.map_eq_error_iff,
    Traced.mapM_eq_error_iff]
  simp only [exists_check_iff]

/-- A table breaks reading down exactly at the first setting that it does not hold as it should. -/
theorem ofTable_eq_breakdown_iff {data : List (String × Value)} {b : Breakdown} :
    Config.ofTable data = .error (.breakdown b) ↔ Halts data b := by
  simp only [ofTable_eq_error_iff, Setting.check_eq_breakdown_iff, Halts]

theorem ofTable_ne_missing (data : List (String × Value)) (path : String) :
    Config.ofTable data ≠ .error (.missing path) := by
  intro stopped
  obtain ⟨-, s, -, -, -, failed⟩ := ofTable_eq_error_iff.mp stopped
  exact Setting.check_ne_missing data s path failed

theorem ofTable_answered (data : List (String × Value)) : AnsweredUnless (Halts data) (Config.ofTable data) :=
  .of_breakdown_iff (ofTable_ne_missing data) fun _ => ofTable_eq_breakdown_iff

theorem ofTable_ok_iff {data : List (String × Value)} :
    (∃ c, Config.ofTable data = .ok c) ↔ ∀ s : Setting, s.Passes data := by
  have checked : (∃ us, Setting.all.mapM (Setting.check data) = .ok us) ↔ ∀ s : Setting, s.Passes data := by
    rw [Traced.mapM_ok_iff]
    simp only [exists_check_iff]
    exact ⟨fun passes s => passes s (Setting.mem_all s), fun passes s _ => passes s⟩
  rw [← checked]
  have same := ofTable_map data
  cases read : Config.ofTable data <;> cases each : Setting.all.mapM (Setting.check data) <;>
    simp_all [Except.map]

theorem written_of_ofTable {data : List (String × Value)} {c : Config} (read : Config.ofTable data = .ok c) :
    Config.written data = c := by
  unfold Config.ofTable at read
  simp only [Traced.bind_eq_ok_iff] at read
  obtain ⟨form, first, host, second, port, third, level, fourth, timeout, fifth, agent, sixth, prodid, seventh,
    whole⟩ := read
  rw [Config.written, convert_eq_ok (s := .logForm) first, convert_eq_ok (s := .host) second,
    convert_eq_ok (s := .port) third, convert_eq_ok (s := .logLevel) fourth,
    convert_eq_ok (s := .timeout) fifth, convert_eq_ok (s := .agent) sixth,
    convert_eq_ok (s := .prodid) seventh]
  exact Except.ok.inj whole

/-- A table is read exactly if all settings can be, and gives what it holds for them. -/
theorem ofTable_eq_ok_iff {data : List (String × Value)} {c : Config} :
    Config.ofTable data = .ok c ↔ (∀ s : Setting, s.Passes data) ∧ Config.written data = c := by
  constructor
  · intro read
    exact ⟨ofTable_ok_iff.mp ⟨c, read⟩, written_of_ofTable read⟩
  · rintro ⟨passes, rfl⟩
    obtain ⟨c, read⟩ := ofTable_ok_iff.mpr passes
    rw [read, written_of_ofTable read]

end FeedSieve.Settings
