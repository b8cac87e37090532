import FeedSieve.Proofs.Settings.CommandLine
import FeedSieve.Proofs.Settings.Load
import FeedSieve.Proofs.Settings.SocketAddress

/-!
# Where the settings come from

The command serves exactly if its command line, the address that a variable holds, and the settings file can all be
read. Each setting then comes from the topmost layer that supplies it, with one exception: an empty host and the
port 0 on the command line count as not given. Main statement: `serves_layered`.
-/
namespace FeedSieve.Startup

open Settings CommandLine

/-! ## Layers -/

/-- What the topmost layer supplies that supplies something. -/
def topmost {α : Type} (layers : List (Option α)) (fallback : α) : α := (layers.findSome? id).getD fallback

@[simp] theorem topmost_nil {α : Type} (fallback : α) : topmost [] fallback = fallback := rfl

@[simp] theorem topmost_cons {α : Type} (x : Option α) (layers : List (Option α)) (fallback : α) :
    topmost (x :: layers) fallback = x.getD (topmost layers fallback) := by
  cases x <;> rfl

/-- Leaving out one value at the top changes nothing unless it stands there and the layers below give another. -/
theorem topmost_filter_iff {α : Type} [DecidableEq α] (x : Option α) (layers : List (Option α))
    (fallback blank : α) : topmost (x.filter (· ≠ blank) :: layers) fallback = topmost (x :: layers) fallback
      ↔ ¬ (x = some blank ∧ topmost layers fallback ≠ blank) := by
  cases x with
  | none => simp
  | some a =>
    by_cases same : a = blank
    · simp [Option.filter, same]
    · simp [Option.filter, same]

/-! ## Sources -/

/-- What the settings come from: the options that are used, the entries of the settings file and the settings they
give, and the address that a variable holds. -/
structure Sources where
  uses : Uses
  entries : Toml.Entries
  base : Config
  address : Option (String × Int)

namespace Sources

structure Of (look : String → Found) (process : Environment) (arguments : List String) (s : Sources) : Prop where
  given : Given arguments s.uses
  acceptable : ∀ use ∈ s.uses, Acceptable use
  file : FileHolds look process (lastValue s.uses .config) s.entries
  base : Config.ofTable s.entries = .ok s.base
  address : Supplied process s.address

def givenHost (s : Sources) : Option String := lastValue s.uses .host

def givenPort (s : Sources) : Option Int := (lastValue s.uses .port).bind spelled?

/-- The hosts below the command line: of the variable and of the file. -/
def lowerHosts (s : Sources) : List (Option String) :=
  [s.address.map (·.1), written? textOf s.entries .host]

/-- The ports below the command line: of the variable and of the file. -/
def lowerPorts (s : Sources) : List (Option Int) :=
  [s.address.map (·.2), written? integerOf s.entries .port]

/-- The levels of the log below the command line: of a variable and of the file, in upper case. -/
def lowerLevels (s : Sources) (process : Environment) : List (Option String) :=
  [(process.nonEmpty? logLevelVariable).map Text.Case.upper,
    (written? textOf s.entries .logLevel).map Text.Case.upper]

/-- Each setting comes from its topmost layer. An empty host and the port 0 are passed over at the top. -/
structure Gives (process : Environment) (s : Sources) (c : Config) : Prop where
  host : c.host = topmost (s.givenHost.filter (· ≠ "") :: s.lowerHosts) defaults.host
  port : c.port = topmost (s.givenPort.filter (· ≠ 0) :: s.lowerPorts) defaults.port
  logLevel : c.logLevel = if (lastValue s.uses .debug).isSome then "DEBUG"
    else topmost (s.lowerLevels process) defaults.logLevel
  logForm : c.logForm = s.base.logForm
  timeout : c.timeout = s.base.timeout
  agent : c.agent = s.base.agent
  prodid : c.prodid = s.base.prodid

/-- The settings that sources give: those of the file, overridden by the variables and by the command line. -/
def settings (process : Environment) (s : Sources) : Config :=
  override s.uses.arguments ((s.base.listeningAt s.address).withLogLevel process)

end Sources

/-! ## Serving -/

/-- A port in range is short enough to be announced. -/
theorem not_holdsLong_port {port : Int} (inside : IsPort port) : ¬ Value.HoldsLong (.integer port) := by
  intro long
  have long := Value.holdsLong_integer_iff.mp long
  have five : 5 ≤ Text.Number.digitLimit := by decide
  -- The limit stays a variable, for its power of ten is too large to be computed.
  generalize Text.Number.digitLimit = limit at long five
  have large : 10 ^ 5 ≤ port.natAbs := Nat.le_trans (Nat.pow_le_pow_right (by decide) five) long
  have ⟨above, below⟩ := inside
  omega

/-- A call of the command leads to settings. -/
def Configures (look : String → Found) (process : Environment) (arguments : List String) (c : Config) : Prop :=
  ∃ a, CommandLine.parse arguments = .ok a ∧ configure look process a = .ok c

theorem configure_eq_ok_iff {look : String → Found} {process : Environment} {a : Arguments} {c : Config} :
    configure look process a = .ok c ↔
      ∃ base, Config.load look process process a.config = .ok base ∧ override a base = c := by
  rw [configure]
  cases Config.load look process process a.config <;> simp [Except.map]

theorem configures_iff {look : String → Found} {process : Environment} {arguments : List String} {c : Config} :
    Configures look process arguments c ↔ ∃ s : Sources, s.Of look process arguments ∧ s.settings process = c := by
  constructor
  · rintro ⟨a, parsed, configured⟩
    obtain ⟨uses, given, acceptable, rfl⟩ := parse_eq_ok_iff.mp parsed
    obtain ⟨_, loaded, rfl⟩ := configure_eq_ok_iff.mp configured
    obtain ⟨entries, base, address, file, read, supplied, rfl⟩ := load_eq_ok_iff.mp loaded
    exact ⟨⟨uses, entries, base, address⟩, ⟨given, acceptable, file, read, supplied⟩, rfl⟩
  · rintro ⟨s, sources, rfl⟩
    have parsed := parse_eq_ok_iff.mpr ⟨s.uses, sources.given, sources.acceptable, rfl⟩
    have loaded : Config.load look process process s.uses.arguments.config = .ok _ :=
      load_eq_ok_iff.mpr ⟨s.entries, s.base, s.address, sources.file, sources.base, sources.address, rfl⟩
    exact ⟨_, parsed, configure_eq_ok_iff.mpr ⟨_, loaded, rfl⟩⟩

/-- The command serves with settings that its call leads to if it can announce their address. -/
theorem start_eq_serves_iff {look : String → Found} {process : Environment} {arguments : List String}
    {c : Config} {address : String} : start look process arguments = .ok (.serves c address) ↔
      Configures look process arguments c ∧ c.address? = some address := by
  constructor
  · intro serves
    unfold start at serves
    split at serves
    · cases serves
    · cases serves
    · rename_i a parsed
      split at serves
      · rename_i configured
        split at serves
        · rename_i written
          cases serves
          exact ⟨⟨a, parsed, configured⟩, written⟩
        · cases serves
      all_goals cases serves
  · rintro ⟨⟨a, parsed, configured⟩, written⟩
    rw [start_of_configured parsed configured, written]

theorem override_eq (a : Arguments) (c : Config) : override a c = { c with
    host := (a.host.filter (· ≠ "")).getD c.host
    port := (a.port.filter (· ≠ 0)).getD c.port
    logLevel := if a.debug then "DEBUG" else c.logLevel } := by
  obtain ⟨config, host, port, debug⟩ := a
  have hosts (h : String) : (if h = "" then c else { c with host := h })
      = { c with host := ((some h).filter (· ≠ "")).getD c.host } := by
    by_cases empty : h = "" <;> simp [Option.filter, empty]
  have ports (c : Config) (p : Int) : (if p = 0 then c else { c with port := p })
      = { c with port := ((some p).filter (· ≠ 0)).getD c.port } := by
    by_cases zero : p = 0 <;> simp [Option.filter, zero]
  unfold override
  cases host <;> cases port <;> cases debug <;> simp only [hosts, ports] <;> rfl

theorem listeningAt_eq (c : Config) (address : Option (String × Int)) : c.listeningAt address = { c with
    host := (address.map (·.1)).getD c.host
    port := (address.map (·.2)).getD c.port } := by
  cases address <;> rfl

theorem withLogLevel_eq (process : Environment) (c : Config) : c.withLogLevel process = { c with
    logLevel := ((process.nonEmpty? logLevelVariable).map Text.Case.upper).getD c.logLevel } := by
  unfold Config.withLogLevel
  cases process.nonEmpty? logLevelVariable <;> rfl

theorem upper_defaultLevel : Text.Case.upper defaults.logLevel = defaults.logLevel := by
  decide

/-- The level of the log in a file is in upper case, as the default is. -/
theorem written_logLevel (entries : Toml.Entries) : (Config.written entries).logLevel
    = topmost [(written? textOf entries .logLevel).map Text.Case.upper] defaults.logLevel := by
  unfold Config.written
  cases written? textOf entries .logLevel with
  | none => exact upper_defaultLevel
  | some level => rfl

/-- The settings that sources give are taken from the layers. -/
theorem Sources.gives_settings {look : String → Found} {process : Environment} {arguments : List String}
    {s : Sources} (sources : s.Of look process arguments) : s.Gives process (s.settings process) := by
  obtain ⟨-, base⟩ := ofTable_eq_ok_iff.mp sources.base
  unfold Sources.settings
  rw [override_eq, withLogLevel_eq, listeningAt_eq]
  constructor
  · simp [Sources.lowerHosts, Sources.givenHost, Uses.arguments, ← base, Config.written]
  · simp [Sources.lowerPorts, Sources.givenPort, Uses.arguments, ← base, Config.written]
  · simp [Sources.lowerLevels, Uses.arguments, ← base, written_logLevel]
  all_goals rfl

/-- The layers leave no choice. -/
theorem Sources.Gives.unique {process : Environment} {s : Sources} {c c' : Config} (gives : s.Gives process c)
    (gives' : s.Gives process c') : c = c' := by
  obtain ⟨host, port, logLevel, logForm, timeout, agent, prodid⟩ := c
  obtain ⟨host', port', logLevel', logForm', timeout', agent', prodid'⟩ := c'
  obtain ⟨rfl, rfl, rfl, rfl, rfl, rfl, rfl⟩ := gives
  obtain ⟨rfl, rfl, rfl, rfl, rfl, rfl, rfl⟩ := gives'
  rfl

/-- How an act runs the server, if it does. -/
def Act.launch? : Act → Option Launch
  | .run launch => some launch
  | _ => none

theorem launches_serves (c : Config) (address : String) :
    (Outcome.serves c address).acts.filterMap Act.launch?
      = [⟨c, c.host, c.port, Text.Case.lower c.logLevel⟩] :=
  rfl

/-- The command serves exactly with the settings that the layers of its sources give, unless their port has too many
digits to be announced, and runs the server once, with their host and port. The host, and likewise the port, is the
one of the topmost layer, that of the command line included, exactly if the command line does not give an empty host,
or the port 0, over another one below. -/
theorem serves_layered (look : String → Found) (process : Environment) (arguments : List String) (c : Config)
    (address : String) :
    (start look process arguments = .ok (.serves c address) ↔
      (∃ s : Sources, s.Of look process arguments ∧ s.Gives process c)
        ∧ ¬ Value.HoldsLong (.integer c.port) ∧ address = c.address)
    ∧ (∀ s : Sources, s.Gives process c →
      (c.host = topmost (s.givenHost :: s.lowerHosts) defaults.host ↔
        ¬ (s.givenHost = some "" ∧ topmost s.lowerHosts defaults.host ≠ ""))
      ∧ (c.port = topmost (s.givenPort :: s.lowerPorts) defaults.port ↔
        ¬ (s.givenPort = some 0 ∧ topmost s.lowerPorts defaults.port ≠ 0)))
    ∧ (Outcome.serves c address).acts.filterMap Act.launch?
      = [⟨c, c.host, c.port, Text.Case.lower c.logLevel⟩] := by
  refine ⟨?_, fun s gives => ?_, launches_serves c address⟩
  · rw [start_eq_serves_iff, configures_iff, address?_eq_some_iff]
    refine and_congr_left fun _ => exists_congr fun s => and_congr_right fun sources => ?_
    have gives := Sources.gives_settings sources
    constructor
    · rintro rfl
      exact gives
    · intro gives'
      exact gives.unique gives'
  · rw [gives.host, gives.port]
    exact ⟨topmost_filter_iff .., topmost_filter_iff ..⟩

theorem ofTable_nil : Config.ofTable [] = .ok defaults := by
  change Except.ok { defaults with logLevel := Text.Case.upper defaults.logLevel } = _
  rw [upper_defaultLevel]

/-- The variables of a process that set an address and the level of the log. -/
def overriding : Environment := ⟨[(addressVariable, "10.0.0.1:9999"), (logLevelVariable, "debug")]⟩

/-- A port on the command line, over an address of the variable, over no file. -/
def overridingSources : Sources := ⟨[(.port, "9090")], [], defaults, some ("10.0.0.1", 9999)⟩

theorem overridingSources_of : overridingSources.Of (fun _ => .nothing) overriding ["--port", "9090"] := by
  refine ⟨⟨_, rfl, .apart rfl .done⟩, ?_, .absent rfl rfl, ofTable_nil, .set rfl rfl⟩
  exact List.forall_mem_singleton.mpr ⟨by decide, by decide⟩

/-- The port of the command line stands over that of the variable, whose host stands over the default. -/
theorem serves_layered_overriding :
    let c : Config := { defaults with host := "10.0.0.1", port := 9090, logLevel := "DEBUG" }
    start (fun _ => .nothing) overriding ["--port", "9090"] = .ok (.serves c "10.0.0.1:9090")
      ∧ c.port = topmost (overridingSources.givenPort :: overridingSources.lowerPorts) defaults.port := by
  intro c
  have gives : overridingSources.Gives overriding c := by
    constructor
    all_goals decide
  have short : ¬ Value.HoldsLong (.integer c.port) := not_holdsLong_port (by decide)
  obtain ⟨serves, layers, -⟩ :=
    serves_layered (fun _ => .nothing) overriding ["--port", "9090"] c "10.0.0.1:9090"
  exact ⟨serves.mpr ⟨⟨_, overridingSources_of, gives⟩, short, rfl⟩, (layers _ gives).2.mpr (by decide)⟩

/-- Not every host that the command line gives is served: an empty one is not. -/
theorem not_all_given_hosts_served : ¬ ∀ look process arguments c address (s : Sources),
    s.Of look process arguments → start look process arguments = .ok (.serves c address) →
      c.host = topmost (s.givenHost :: s.lowerHosts) defaults.host := by
  intro all
  have sources : Sources.Of (fun _ => .nothing) ⟨[]⟩ ["--host", ""] ⟨[(.host, "")], [], defaults, none⟩ := by
    refine ⟨⟨_, rfl, .apart rfl .done⟩, ?_, .absent rfl rfl, ofTable_nil, .unset rfl⟩
    exact List.forall_mem_singleton.mpr ⟨nofun, nofun⟩
  have written : Config.address? _ = some _ :=
    (address?_eq_some_iff defaults _).mpr ⟨not_holdsLong_port (by decide), rfl⟩
  have serves := start_eq_serves_iff.mpr ⟨configures_iff.mpr ⟨_, sources, rfl⟩, written⟩
  have host := all _ _ _ _ _ _ sources serves
  revert host
  decide

end FeedSieve.Startup
