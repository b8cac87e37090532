import FeedSieve.Proofs.Settings.SocketAddress
import FeedSieve.Proofs.Startup.Layers

/-!
# The port to listen at

A port of the variable is in range, and so is the default. One of the command line or of the file is never looked
at, so that the port of the settings is in range exactly if theirs is, where it counts (`configures_isPort_iff`).
-/
namespace FeedSieve.Startup

open Settings

/-- An integer that the command line gives for the port, and that counts; or that the file gives, where neither the
command line nor the variable gives one. -/
inductive Sources.Unchecked (s : Sources) : Int → Prop where
  | given {port : Int} (given : s.givenPort = some port) (counts : port ≠ 0) : Unchecked s port
  | file {port : Int} (passed : s.givenPort.filter (· ≠ 0) = none) (unset : s.address = none)
      (written : written? integerOf s.entries .port = some port) : Unchecked s port

theorem isPort_of_supplied {process : Environment} {host : String} {port : Int}
    (supplied : Supplied process (some (host, port))) : IsPort port := by
  cases supplied with
  | set held read =>
    cases parseAddress_eq_iff.mp read with
    | address cut means number inside => exact inside

theorem isPort_default : IsPort defaults.port := by
  decide

section Gives

variable {process : Environment} {s : Sources} {c : Config}

/-- An integer that no one looks at is the port. -/
theorem Sources.Unchecked.served {port : Int} (unchecked : s.Unchecked port) (gives : s.Gives process c) :
    c.port = port := by
  rw [gives.port, topmost_cons]
  cases unchecked with
  | given given counts => simp [given, Option.filter, counts]
  | file passed unset written =>
    rw [passed]
    simp [Sources.lowerPorts, unset, written]

/-- Without such an integer the port is that of the variable or the default. -/
theorem isPort_of_checked (gives : s.Gives process c) (supplied : Supplied process s.address)
    (checked : ∀ port, ¬ s.Unchecked port) : IsPort c.port := by
  have passed : s.givenPort.filter (· ≠ 0) = none := by
    apply Option.eq_none_iff_forall_not_mem.mpr
    intro port counts
    obtain ⟨given, nonzero⟩ := Option.filter_eq_some_iff.mp counts
    exact checked port (.given given (by simpa using nonzero))
  rw [gives.port, topmost_cons, passed, Option.getD_none]
  cases held : s.address with
  | some address =>
    rw [held] at supplied
    simpa [Sources.lowerPorts, held] using isPort_of_supplied supplied
  | none =>
    have unwritten : written? integerOf s.entries .port = none :=
      Option.eq_none_iff_forall_not_mem.mpr fun port written => checked port (.file passed held written)
    simpa [Sources.lowerPorts, held, unwritten] using isPort_default

end Gives

/-- A call leads to one settings at most. -/
theorem Configures.unique {look : String → Found} {process : Environment} {arguments : List String}
    {c c' : Config} (configures : Configures look process arguments c)
    (configures' : Configures look process arguments c') : c = c' := by
  obtain ⟨a, parsed, configured⟩ := configures
  obtain ⟨a', parsed', configured'⟩ := configures'
  cases parsed.symm.trans parsed'
  cases configured.symm.trans configured'
  rfl

/-- Where a call of the command leads to settings, it has sources, and the port of the settings is in range exactly if
the integer is that the command line or the file gives for it without being looked at, should there be one. -/
theorem configures_isPort_iff {look : String → Found} {process : Environment} {arguments : List String}
    {c : Config} (configures : Configures look process arguments c) :
    (∃ s : Sources, s.Of look process arguments) ∧ ∀ s : Sources, s.Of look process arguments →
      (IsPort c.port ↔ ∀ port, s.Unchecked port → IsPort port) := by
  refine ⟨(configures_iff.mp configures).imp fun s found => found.1, fun s sources => ?_⟩
  have gives : s.Gives process c := by
    rw [configures.unique (configures_iff.mpr ⟨s, sources, rfl⟩)]
    exact Sources.gives_settings sources
  constructor
  · intro inside port unchecked
    rw [← unchecked.served gives]
    exact inside
  · intro ports
    by_cases checked : ∃ port, s.Unchecked port
    · obtain ⟨port, unchecked⟩ := checked
      rw [unchecked.served gives]
      exact ports port unchecked
    · exact isPort_of_checked gives sources.address fun port unchecked => checked ⟨port, unchecked⟩

/-- A port of the command line that is in range is the port of the settings. -/
theorem configures_isPort_overriding : ∃ c : Config,
    Configures (fun _ => .nothing) overriding ["--port", "9090"] c ∧ IsPort c.port := by
  have configures := configures_iff.mpr ⟨_, overridingSources_of, rfl⟩
  refine ⟨_, configures, ((configures_isPort_iff configures).2 _ overridingSources_of).mpr ?_⟩
  have given : overridingSources.givenPort = some 9090 := by decide
  rintro port (⟨given', -⟩ | ⟨passed, -, -⟩)
  · cases given.symm.trans given'
    decide
  · rw [given] at passed
    cases passed

/-- Not every port of settings is in range: one of the command line need not be. -/
theorem not_all_ports_inRange : ¬ ∀ look process arguments c, Configures look process arguments c →
    IsPort c.port := by
  intro all
  have sources : Sources.Of (fun _ => .nothing) ⟨[]⟩ ["--port", "70000"]
      ⟨[(.port, "70000")], [], defaults, none⟩ := by
    refine ⟨⟨_, rfl, .apart rfl .done⟩, ?_, .absent rfl rfl, ofTable_nil, .unset rfl⟩
    exact List.forall_mem_singleton.mpr ⟨by decide, by decide⟩
  have inside := all _ _ _ _ (configures_iff.mpr ⟨_, sources, rfl⟩)
  revert inside
  decide

end FeedSieve.Startup
