import FeedSieve.Proofs.Traced
import FeedSieve.Settings.CommandLine

/-!
# What a command line gives

The words of a command line are read as uses of options, one behind the other, and nothing else. What the options
give is told by their last uses alone (`parse_eq_ok_iff`).
-/
namespace FeedSieve.Settings.CommandLine

/-- The options that a command line uses, each with its value. -/
abbrev Uses := List (Flag × String)

/-- The words are uses of options: an option and the plain word behind it, an option that holds its value, or an
option without one. -/
inductive Spells : List (String × Word) → Uses → Prop where
  | done : Spells [] []
  | apart {argument value text : String} {f : Flag} {rest : List (String × Word)} {uses : Uses}
      (valued : f.takesValue = true) (later : Spells rest uses) :
      Spells ((argument, .option f none) :: (value, .plain text) :: rest) ((f, value) :: uses)
  | attached {argument : String} {f : Flag} {held : Attached} {rest : List (String × Word)} {uses : Uses}
      (valued : f.takesValue = true) (later : Spells rest uses) :
      Spells ((argument, .option f (some held)) :: rest) ((f, String.ofList held.value) :: uses)
  | bare {argument : String} {f : Flag} {rest : List (String × Word)} {uses : Uses}
      (unvalued : f.takesValue = false) (later : Spells rest uses) :
      Spells ((argument, .option f none) :: rest) ((f, "") :: uses)

def Given (arguments : List String) (uses : Uses) : Prop :=
  ∃ words, wordsOf arguments = .ok words ∧ Spells words uses

def lastValue (uses : Uses) (f : Flag) : Option String :=
  uses.reverse.findSome? fun use => if use.1 = f then some use.2 else none

/-- The integer that a text spells. -/
def spelled? (text : String) : Option Int := (Text.Number.int? text).toOption

def Uses.arguments (uses : Uses) : Arguments where
  config := lastValue uses .config
  host := lastValue uses .host
  port := (lastValue uses .port).bind spelled?
  debug := (lastValue uses .debug).isSome

/-- Help is not asked for, and the value of a port is an integer. -/
def Acceptable (use : Flag × String) : Prop :=
  use.1 ≠ .help ∧ (use.1 = .port → (spelled? use.2).isSome)

/-! ## Values of options -/

theorem lastValue_cons (use : Flag × String) (uses : Uses) (f : Flag) :
    lastValue (use :: uses) f = (lastValue uses f).or (lastValue [use] f) := by
  simp [lastValue, List.findSome?_append]

theorem mem_of_lastValue {uses : Uses} {f : Flag} {value : String} (last : lastValue uses f = some value) :
    (f, value) ∈ uses := by
  obtain ⟨use, member, same⟩ := List.exists_of_findSome?_eq_some last
  split at same
  · rename_i named
    cases same
    rw [← named]
    exact List.mem_reverse.mp member
  · cases same

/-- Later arguments stand in front of earlier ones. -/
def atop (later earlier : Arguments) : Arguments where
  config := later.config.or earlier.config
  host := later.host.or earlier.host
  port := later.port.or earlier.port
  debug := later.debug || earlier.debug

theorem atop_atop (last later earlier : Arguments) :
    atop last (atop later earlier) = atop (atop last later) earlier := by
  simp [atop, Option.or_assoc, Bool.or_assoc]

theorem arguments_cons {use : Flag × String} {uses : Uses} (sound : ∀ u ∈ uses, Acceptable u) :
    Uses.arguments (use :: uses) = atop uses.arguments (Uses.arguments [use]) := by
  have port : ((lastValue uses .port).or (lastValue [use] .port)).bind spelled?
      = ((lastValue uses .port).bind spelled?).or ((lastValue [use] .port).bind spelled?) := by
    cases last : lastValue uses .port with
    | none => rfl
    | some value =>
      obtain ⟨n, spelled⟩ := Option.isSome_iff_exists.mp ((sound _ (mem_of_lastValue last)).2 rfl)
      simp [spelled]
  simp [Uses.arguments, atop, lastValue_cons use uses, port]

theorem store_eq_ok_iff {f : Flag} {value : String} {a a' : Arguments} :
    store f value a = .ok a' ↔ Acceptable (f, value) ∧ atop (Uses.arguments [(f, value)]) a = a' := by
  cases f with
  | help => simp [store, Acceptable]
  | config => simp [store, Acceptable, atop, Uses.arguments, lastValue]
  | host => simp [store, Acceptable, atop, Uses.arguments, lastValue]
  | debug => simp [store, Acceptable, atop, Uses.arguments, lastValue]
  | port =>
    cases number : Text.Number.int? value with
    | error e => simp [store, Acceptable, spelled?, number, Except.toOption]
    | ok n => simp [store, Acceptable, atop, Uses.arguments, lastValue, spelled?, number, Except.toOption]

/-- Uses are stored in turn if each of them can be, and then the last ones count. -/
theorem foldlM_store_eq_ok_iff {uses : Uses} {a a' : Arguments} :
    uses.foldlM (fun a use => store use.1 use.2 a) a = .ok a' ↔
      (∀ use ∈ uses, Acceptable use) ∧ atop uses.arguments a = a' := by
  induction uses generalizing a with
  | nil => simp [atop, Uses.arguments, lastValue, pure, Except.pure]
  | cons use rest ih =>
    rw [List.foldlM_cons, Traced.bind_eq_ok_iff]
    simp only [store_eq_ok_iff, ih, List.forall_mem_cons]
    constructor
    · rintro ⟨_, ⟨first, rfl⟩, others, rfl⟩
      exact ⟨⟨first, others⟩, by rw [arguments_cons others, atop_atop]⟩
    · rintro ⟨⟨first, others⟩, rfl⟩
      exact ⟨_, ⟨first, rfl⟩, others, by rw [arguments_cons others, atop_atop]⟩

/-! ## Acting on the words -/

/-- Only an option that takes a value is read with one. -/
theorem takesValue_of_cluster {f g : Flag} {isShort afterSign : Bool} {value : List Char} {text : String}
    (read : cluster f isShort afterSign value = .ok (.value g text)) : g.takesValue = true := by
  fun_induction cluster f isShort afterSign value with
  | case1 f isShort afterSign valued =>
    cases read
    exact valued
  | case3 f isShort afterSign c rest held valued =>
    obtain ⟨rfl, -⟩ := Cluster.value.inj (Except.ok.inj read)
    exact valued
  | case7 f isShort afterSign c unvalued inShort g found rest ih => exact ih read
  | case8 f isShort afterSign c unvalued inShort g found d rest other ih => exact ih read
  | _ => cases read

theorem useFlag_eq_ok_iff {f : Flag} {a a' : Arguments} {rest rest' : List (String × Word)} :
    useFlag f a rest = .ok (a', rest') ↔
      (f.takesValue = true ∧ ∃ value text, rest = (value, .plain text) :: rest' ∧ store f value a = .ok a')
      ∨ (f.takesValue = false ∧ rest' = rest ∧ store f "" a = .ok a') := by
  unfold useFlag
  cases valued : f.takesValue with
  | false =>
    simp only [Bool.false_eq_true, if_false, Traced.bind_eq_ok_iff]
    constructor
    · rintro ⟨stored, step, same⟩
      cases same
      exact .inr ⟨trivial, rfl, step⟩
    · rintro (⟨⟨⟩, -⟩ | ⟨-, rfl, step⟩)
      exact ⟨a', step, rfl⟩
  | true =>
    simp only [if_true]
    constructor
    · intro used
      split at used
      · obtain ⟨stored, step, same⟩ := Traced.bind_eq_ok_iff.mp used
        cases same
        exact .inl ⟨trivial, _, _, rfl, step⟩
      · cases used
    · rintro (⟨-, value, text, rfl, step⟩ | ⟨⟨⟩, -⟩)
      exact Traced.bind_eq_ok_iff.mpr ⟨a', step, rfl⟩

theorem useAttached_eq_ok_iff {f : Flag} {isShort : Bool} {held : Attached} {a a' : Arguments}
    {rest rest' : List (String × Word)} :
    useAttached f isShort held a rest = .ok (a', rest') ↔
      f.takesValue = true ∧ rest' = rest ∧ store f (String.ofList held.value) a = .ok a' := by
  cases valued : f.takesValue with
  | true =>
    have read : cluster f isShort held.afterSign held.value = .ok (.value f (String.ofList held.value)) := by
      cases value : held.value <;> simp [cluster, valued]
    rw [useAttached, read]
    simp only [if_true, Traced.bind_eq_ok_iff]
    constructor
    · rintro ⟨stored, step, same⟩
      cases same
      exact ⟨trivial, rfl, step⟩
    · rintro ⟨-, rfl, step⟩
      exact ⟨a', step, rfl⟩
  | false =>
    -- An option without a value leads to help or to a refusal here, whatever is attached to it.
    simp only [Bool.false_eq_true, false_and, iff_false]
    intro used
    unfold useAttached at used
    split at used
    · cases used
    · rename_i g text read
      split at used
      · rename_i same
        rw [← same, takesValue_of_cluster read] at valued
        cases valued
      · cases used
    · rename_i g read
      split at used
      · cases flag : useFlag g a rest with
        | error e => rw [flag] at used; cases used
        | ok done => rw [flag] at used; cases used
      · cases used
    · cases used

section Acting

variable {most : Nat} {a a' : Arguments} {argument : String} {f : Flag} {rest words : List (String × Word)}

/-- An option that holds no value takes the plain word behind it, or needs none. -/
theorem act_option_eq_ok_iff :
    act (most + 1) a ((argument, .option f none) :: rest) = .ok (a', []) ↔
      (f.takesValue = true ∧ ∃ value text later b, rest = (value, .plain text) :: later
        ∧ store f value a = .ok b ∧ act most b later = .ok (a', []))
      ∨ (f.takesValue = false ∧ ∃ b, store f "" a = .ok b ∧ act most b rest = .ok (a', [])) := by
  rw [act]
  simp only [Traced.bind_eq_ok_iff, Prod.exists, useFlag_eq_ok_iff]
  constructor
  · rintro ⟨b, later, ⟨valued, value, text, rfl, stored⟩ | ⟨unvalued, rfl, stored⟩, acted⟩
    · exact .inl ⟨valued, value, text, later, b, rfl, stored, acted⟩
    · exact .inr ⟨unvalued, b, stored, acted⟩
  · rintro (⟨valued, value, text, later, b, rfl, stored, acted⟩ | ⟨unvalued, b, stored, acted⟩)
    · exact ⟨b, later, .inl ⟨valued, value, text, rfl, stored⟩, acted⟩
    · exact ⟨b, rest, .inr ⟨unvalued, rfl, stored⟩, acted⟩

theorem act_attached_eq_ok_iff {held : Attached} :
    act (most + 1) a ((argument, .option f (some held)) :: rest) = .ok (a', []) ↔
      f.takesValue = true ∧ ∃ b, store f (String.ofList held.value) a = .ok b
        ∧ act most b rest = .ok (a', []) := by
  rw [act]
  simp only [Traced.bind_eq_ok_iff, Prod.exists, useAttached_eq_ok_iff]
  constructor
  · rintro ⟨b, later, ⟨valued, rfl, stored⟩, acted⟩
    exact ⟨valued, b, stored, acted⟩
  · rintro ⟨valued, b, stored, acted⟩
    exact ⟨b, rest, ⟨valued, rfl, stored⟩, acted⟩

/-- A word that is no option stays behind as a stray. -/
theorem act_stray {word : Word} (other : ∀ f held, word ≠ .option f held) :
    act (most + 1) a ((argument, word) :: rest) ≠ .ok (a', []) := by
  intro acted
  rw [act] at acted
  · obtain ⟨done, -, same⟩ := Traced.bind_eq_ok_iff.mp acted
    cases same
  · exact fun f => other f none
  · exact fun f held => other f (some held)

/-- Acting on words gives arguments and no stray word exactly if the words are uses that can be stored. -/
theorem act_eq_ok_iff (enough : words.length < most) : act most a words = .ok (a', []) ↔
    ∃ uses, Spells words uses ∧ uses.foldlM (fun a use => store use.1 use.2 a) a = .ok a' := by
  -- By induction on the attempts that are left: a use takes one or two words, and more than one attempt
  -- is left for each word.
  induction most generalizing a words with
  | zero => exact absurd enough (Nat.not_lt_zero _)
  | succ most ih =>
    rcases words with _ | ⟨⟨argument, word⟩, rest⟩
    · constructor
      · intro done
        cases done
        exact ⟨[], .done, rfl⟩
      · rintro ⟨uses, spells, stored⟩
        cases spells
        cases stored
        rfl
    have later : rest.length < most := Nat.lt_of_succ_lt_succ enough
    rcases word with _ | _ | ⟨f, _ | held⟩ | _
    case option.none =>
      rw [act_option_eq_ok_iff]
      constructor
      · rintro (⟨valued, value, text, rest, b, rfl, step, acted⟩ | ⟨unvalued, b, step, acted⟩)
        · obtain ⟨uses, spells, stored⟩ := (ih (Nat.lt_of_succ_lt later)).mp acted
          exact ⟨_, .apart valued spells, Traced.bind_eq_ok_iff.mpr ⟨b, step, stored⟩⟩
        · obtain ⟨uses, spells, stored⟩ := (ih later).mp acted
          exact ⟨_, .bare unvalued spells, Traced.bind_eq_ok_iff.mpr ⟨b, step, stored⟩⟩
      · rintro ⟨uses, spells, stored⟩
        cases spells with
        | apart valued spells =>
          obtain ⟨b, step, stored⟩ := Traced.bind_eq_ok_iff.mp stored
          exact .inl ⟨valued, _, _, _, b, rfl, step, (ih (Nat.lt_of_succ_lt later)).mpr ⟨_, spells, stored⟩⟩
        | bare unvalued spells =>
          obtain ⟨b, step, stored⟩ := Traced.bind_eq_ok_iff.mp stored
          exact .inr ⟨unvalued, b, step, (ih later).mpr ⟨_, spells, stored⟩⟩
    case option.some =>
      rw [act_attached_eq_ok_iff]
      constructor
      · rintro ⟨valued, b, step, acted⟩
        obtain ⟨uses, spells, stored⟩ := (ih later).mp acted
        exact ⟨_, .attached valued spells, Traced.bind_eq_ok_iff.mpr ⟨b, step, stored⟩⟩
      · rintro ⟨uses, spells, stored⟩
        cases spells with
        | attached valued spells =>
          obtain ⟨b, step, stored⟩ := Traced.bind_eq_ok_iff.mp stored
          exact ⟨valued, b, step, (ih later).mpr ⟨_, spells, stored⟩⟩
    all_goals
      refine iff_of_false (act_stray ?_) ?_
      · rintro f held ⟨⟩
      · rintro ⟨uses, ⟨⟩, -⟩

end Acting

/-- A command line is read exactly if it consists of uses of options, none of which asks for help and of which the
values of ports are integers. What it gives is what the last uses say. -/
theorem parse_eq_ok_iff {arguments : List String} {a : Arguments} : parse arguments = .ok a ↔
    ∃ uses, Given arguments uses ∧ (∀ use ∈ uses, Acceptable use) ∧ uses.arguments = a := by
  have kept (uses : Uses) : atop uses.arguments ⟨none, none, none, false⟩ = uses.arguments := by
    simp [atop]
  unfold parse Given
  cases cut : wordsOf arguments with
  | error cause => simp
  | ok words =>
    simp only [Traced.bind_eq_ok_iff, Prod.exists]
    constructor
    · rintro ⟨b, strays, acted, same⟩
      split at same
      · rename_i none
        cases same
        rw [none, act_eq_ok_iff (Nat.lt_succ_self _)] at acted
        obtain ⟨uses, spells, stored⟩ := acted
        rw [foldlM_store_eq_ok_iff, kept] at stored
        exact ⟨uses, ⟨words, rfl, spells⟩, stored⟩
      · cases same
    · rintro ⟨uses, ⟨_, ⟨⟩, spells⟩, stored⟩
      rw [← kept, ← foldlM_store_eq_ok_iff] at stored
      exact ⟨a, [], (act_eq_ok_iff (Nat.lt_succ_self _)).mpr ⟨uses, spells, stored⟩, if_pos rfl⟩

end FeedSieve.Settings.CommandLine
