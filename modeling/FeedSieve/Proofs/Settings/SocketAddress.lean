import FeedSieve.Proofs.Text.Number
import FeedSieve.Settings.Config

/-!
# Socket addresses as texts

A text names a host and a port if it is the host, perhaps in brackets, a colon, and the port, which holds no
colon itself. `parseAddress` reads just these texts and refuses each other one for its first flaw. What it reads
it reads again from its printed form, unless the brackets held nothing or held brackets again. Main statement:
`parseAddress_outcome`.
-/
namespace FeedSieve.Settings

/-! ## The last colon -/

section LastMark

variable {mark : Char} {s before after : List Char}

theorem splitLast_of_not_mem (absent : mark ∉ s) : splitLast mark s = none := by
  induction s with
  | nil => rfl
  | cons c rest ih =>
    have other : c ≠ mark := fun same => absent (same ▸ List.mem_cons_self)
    rw [splitLast, ih (fun member => absent (List.mem_cons_of_mem c member))]
    exact if_neg other

theorem splitLast_append (before : List Char) (last : mark ∉ after) :
    splitLast mark (before ++ mark :: after) = some (before, after) := by
  induction before with
  | nil =>
    rw [List.nil_append, splitLast, splitLast_of_not_mem last]
    exact if_pos rfl
  | cons c rest ih => rw [List.cons_append, splitLast, ih]

/-- A mark in a text has a last occurrence. -/
theorem exists_lastCut (member : mark ∈ s) :
    ∃ before after, s = before ++ mark :: after ∧ mark ∉ after := by
  obtain ⟨back, front, cut, last⟩ := List.eq_append_cons_of_mem (List.mem_reverse.mpr member)
  refine ⟨front.reverse, back.reverse, ?_, fun inside => last (List.mem_reverse.mp inside)⟩
  rw [← List.reverse_reverse s, cut]
  simp

theorem splitLast_eq_some_iff :
    splitLast mark s = some (before, after) ↔ s = before ++ mark :: after ∧ mark ∉ after := by
  constructor
  · intro found
    by_cases member : mark ∈ s
    · obtain ⟨front, back, rfl, last⟩ := exists_lastCut member
      rw [splitLast_append front last] at found
      cases found
      exact ⟨rfl, last⟩
    · rw [splitLast_of_not_mem member] at found
      cases found
  · rintro ⟨rfl, last⟩
    exact splitLast_append before last

end LastMark

/-! ## Brackets -/

def Bracketed (host : List Char) : Prop := ∃ inner, host = '[' :: (inner ++ [']'])

theorem unbracket_bracketed (inner : List Char) : unbracket ('[' :: (inner ++ [']'])) = inner := by
  have last : ('[' :: (inner ++ [']'])).getLast? = some ']' := by
    rw [← List.cons_append, List.getLast?_concat]
  rw [unbracket, if_pos ⟨rfl, last⟩, List.tail_cons, List.dropLast_concat]

theorem unbracket_of_bare {host : List Char} (bare : ¬ Bracketed host) : unbracket host = host := by
  apply if_neg
  rintro ⟨first, last⟩
  apply bare
  obtain ⟨rest, rfl⟩ := List.head?_eq_some_iff.mp first
  obtain ⟨front, cut⟩ := List.getLast?_eq_some_iff.mp last
  cases front with
  | nil => cases cut
  | cons c inner =>
    obtain ⟨rfl, rfl⟩ := List.cons.inj cut
    exact ⟨inner, rfl⟩

theorem unbracket_eq_self_iff {host : List Char} : unbracket host = host ↔ ¬ Bracketed host := by
  constructor
  · rintro same ⟨inner, rfl⟩
    rw [unbracket_bracketed] at same
    have length := congrArg List.length same
    simp only [List.length_cons, List.length_append] at length
    omega
  · exact unbracket_of_bare

/-! ## What a text names -/

/-- A text is cut at its last colon, with something before it. -/
structure Cut (value : String) (written digits : List Char) : Prop where
  text : value.toList = written ++ ':' :: digits
  last : ':' ∉ digits
  filled : written ≠ []

/-- The host that is written with brackets or without. -/
inductive Means : (written host : List Char) → Prop where
  | brackets (host : List Char) : Means ('[' :: (host ++ [']'])) host
  | plain {host : List Char} (bare : ¬ Bracketed host) : Means host host

def IsPort (n : Int) : Prop := 0 < n ∧ n < 65536

/-- What a text comes to as an address. -/
inductive Reads (value : String) : Except AddressError (String × Int) → Prop where
  /-- It has no colon, or nothing before its last one. -/
  | uncut (whole : ∀ written digits, ¬ Cut value written digits) : Reads value (.error .shape)
  /-- What follows is no integer. -/
  | unread {written digits : List Char} {e : Text.Number.IntError} (cut : Cut value written digits)
      (malformed : Text.Number.int? (String.ofList digits) = .error e) : Reads value (.error .port)
  /-- What follows is an integer that is no port. -/
  | outside {written digits : List Char} {n : Int} (cut : Cut value written digits)
      (number : Text.Number.int? (String.ofList digits) = .ok n) (outside : ¬ IsPort n) :
      Reads value (.error .range)
  /-- It names a host and a port. -/
  | address {written digits host : List Char} {port : Int} (cut : Cut value written digits)
      (means : Means written host) (number : Text.Number.int? (String.ofList digits) = .ok port)
      (inside : IsPort port) : Reads value (.ok (String.ofList host, port))

instance (n : Int) : Decidable (IsPort n) := inferInstanceAs (Decidable (_ ∧ _))

theorem means_iff {written host : List Char} : Means written host ↔ host = unbracket written := by
  constructor
  · intro means
    cases means with
    | brackets => rw [unbracket_bracketed]
    | plain bare => rw [unbracket_of_bare bare]
  · rintro rfl
    by_cases bracketed : Bracketed written
    · obtain ⟨inner, rfl⟩ := bracketed
      rw [unbracket_bracketed]
      exact .brackets inner
    · rw [unbracket_of_bare bracketed]
      exact .plain bracketed

/-- A text is cut in one way. -/
theorem Cut.unique {value : String} {written digits written' digits' : List Char}
    (cut : Cut value written digits) (cut' : Cut value written' digits') :
    written = written' ∧ digits = digits' := by
  have found := splitLast_append written cut.last
  rw [← cut.text, cut'.text, splitLast_append written' cut'.last] at found
  cases found
  exact ⟨rfl, rfl⟩

theorem parseAddress_of_uncut {value : String} (whole : ∀ written digits, ¬ Cut value written digits) :
    parseAddress value = .error .shape := by
  unfold parseAddress
  split
  · rfl
  · rfl
  · rename_i written digits filled found
    obtain ⟨text, last⟩ := splitLast_eq_some_iff.mp found
    exact absurd ⟨text, last, filled⟩ (whole written digits)

theorem parseAddress_of_cut {value : String} {written digits : List Char} (cut : Cut value written digits) :
    parseAddress value = match Text.Number.int? (String.ofList digits) with
      | .error _ => .error .port
      | .ok n =>
        if IsPort n then .ok (String.ofList (unbracket written), n) else .error .range := by
  have found : splitLast ':' value.toList = some (written, digits) :=
    splitLast_eq_some_iff.mpr ⟨cut.text, cut.last⟩
  unfold parseAddress
  rw [found]
  cases filled : written with
  | nil => exact absurd filled cut.filled
  | cons c rest => rfl

/-- A text is read as what it comes to, and as nothing else. -/
theorem parseAddress_eq_iff {value : String} {outcome : Except AddressError (String × Int)} :
    parseAddress value = outcome ↔ Reads value outcome := by
  constructor
  · rintro rfl
    by_cases whole : ∀ written digits, ¬ Cut value written digits
    · rw [parseAddress_of_uncut whole]
      exact .uncut whole
    · obtain ⟨written, digits, cut⟩ : ∃ written digits, Cut value written digits := by
        simpa using whole
      rw [parseAddress_of_cut cut]
      cases number : Text.Number.int? (String.ofList digits) with
      | error e => exact .unread cut number
      | ok n =>
        dsimp only
        split
        case isTrue inside => exact .address cut (means_iff.mpr rfl) number inside
        case isFalse outside => exact .outside cut number outside
  · intro reads
    cases reads with
    | uncut whole => exact parseAddress_of_uncut whole
    | unread cut malformed => rw [parseAddress_of_cut cut, malformed]
    | outside cut number outside =>
      rw [parseAddress_of_cut cut, number]
      exact if_neg outside
    | address cut means number inside =>
      rw [parseAddress_of_cut cut, number, means_iff.mp means]
      exact if_pos inside

/-! ## Printed addresses -/

theorem toList_printAddress (host : String) (port : Int) :
    (printAddress host port).toList = host.toList ++ ':' :: (toString port).toList := by
  rw [printAddress, String.toList_append, String.toList_append, List.append_assoc]
  rfl

/-- The text of a port is read as the port, and holds no colon. -/
theorem port_text {port : Int} (inside : IsPort port) :
    Text.Number.int? (toString port) = .ok port ∧ ':' ∉ (toString port).toList := by
  obtain ⟨n, rfl⟩ := Int.eq_ofNat_of_zero_le (Int.le_of_lt inside.1)
  have digits : (Nat.toDigits 10 n).length ≤ 5 := by
    apply (Nat.length_toDigits_le_iff (by decide) (by decide)).mpr
    have limit := inside.2
    omega
  change Text.Number.int? (toString n) = _ ∧ ':' ∉ (toString n).toList
  refine ⟨Text.Number.int?_toString (Nat.le_trans digits (by decide)), fun colon => ?_⟩
  rw [Nat.toString_eq_ofList_toDigits, String.toList_ofList] at colon
  have digit := Nat.isDigit_of_mem_toDigits (by decide) (by decide) colon
  cases digit

/-- An address is read again from its text exactly if its host is neither empty nor in brackets. -/
theorem parseAddress_printAddress_iff {host : String} {port : Int} (inside : IsPort port) :
    parseAddress (printAddress host port) = .ok (host, port) ↔ host ≠ "" ∧ ¬ Bracketed host.toList := by
  obtain ⟨number, last⟩ := port_text inside
  have text := toList_printAddress host port
  -- Without a host the colon comes first, and such an address is not cut.
  by_cases empty : host = ""
  · have whole (written digits : List Char) : ¬ Cut (printAddress host port) written digits := by
      intro cut
      have found := splitLast_append [] last
      have front : host.toList = [] := by rw [empty]; rfl
      rw [front] at text
      rw [← text, cut.text, splitLast_append written cut.last] at found
      cases found
      exact cut.filled rfl
    rw [parseAddress_of_uncut whole]
    simp [empty]
  · have cut : Cut (printAddress host port) host.toList (toString port).toList :=
      ⟨text, last, fun bare => empty (String.toList_inj.mp bare)⟩
    rw [parseAddress_of_cut cut, String.ofList_toList, number]
    dsimp only
    rw [if_pos inside, ← unbracket_eq_self_iff]
    simp [empty, String.ext_iff]

/-! ## The outcome for every text -/

/-- The brackets around a host hold nothing, or brackets again. -/
inductive Doubled (value : String) : Prop where
  | brackets {inner digits : List Char} (cut : Cut value ('[' :: (inner ++ [']'])) digits)
      (within : inner = [] ∨ Bracketed inner) : Doubled value

/-- What is left of a host that is written in brackets is empty or in brackets itself, and of no other. -/
theorem Cut.doubled_iff {value : String} {written digits host : List Char} (cut : Cut value written digits)
    (means : Means written host) : Doubled value ↔ host = [] ∨ Bracketed host := by
  constructor
  · rintro ⟨cut', within⟩
    obtain ⟨rfl, rfl⟩ := cut.unique cut'
    rw [means_iff.mp means, unbracket_bracketed]
    exact within
  · intro within
    cases means with
    | brackets => exact ⟨cut, within⟩
    | plain bare => exact absurd within (not_or.mpr ⟨cut.filled, bare⟩)

/-- Whatever the text is, it is read as the host and the port that it names, or refused for its first flaw. The
port is one. The host is not empty and is read again with the port from their printed form, for any settings that
hold them, exactly if the text does not put brackets around nothing or around brackets. -/
theorem parseAddress_outcome (value : String) :
    (∀ outcome, parseAddress value = outcome ↔ Reads value outcome)
    ∧ ∀ host port, parseAddress value = .ok (host, port) →
        (0 < port ∧ port < 65536)
        ∧ ∀ c : Config, (host ≠ "" ∧ parseAddress ({ c with host, port } : Config).address = .ok (host, port))
            ↔ ¬ Doubled value := by
  refine ⟨fun _ => parseAddress_eq_iff, fun host port read => ?_⟩
  cases parseAddress_eq_iff.mp read with
  | @address written digits host port cut means number inside =>
    refine ⟨inside, fun c => ?_⟩
    change _ ∧ parseAddress (printAddress (String.ofList host) port) = _ ↔ _
    rw [parseAddress_printAddress_iff inside, cut.doubled_iff means]
    simp

theorem parseAddress_loopback : parseAddress "[::1]:8080" = .ok ("::1", 8080) := rfl

/-- The brackets of an address leave colons in the host, and its printed form, which has none, is read again. -/
theorem parseAddress_outcome_loopback : parseAddress "[::1]:8080" = .ok ("::1", 8080)
    ∧ parseAddress ({ defaults with host := "::1", port := 8080 } : Config).address = .ok ("::1", 8080) := by
  obtain ⟨-, returns⟩ := (parseAddress_outcome "[::1]:8080").2 "::1" 8080 parseAddress_loopback
  refine ⟨parseAddress_loopback, ((returns defaults).mpr ?_).2⟩
  have cut : Cut "[::1]:8080" ('[' :: ([':', ':', '1'] ++ [']'])) ['8', '0', '8', '0'] :=
    ⟨by decide, by decide, by simp⟩
  rw [cut.doubled_iff (.brackets _)]
  rintro (empty | ⟨inner, same⟩)
  · cases empty
  · cases same

/-- Not every host that is read is one: brackets around nothing leave an empty host, which no text names. -/
theorem not_all_addresses_return : ¬ ∀ (value host : String) (port : Int),
    parseAddress value = .ok (host, port) →
      host ≠ "" ∧ (0 < port ∧ port < 65536)
      ∧ ∀ c : Config, parseAddress ({ c with host, port } : Config).address = .ok (host, port) := by
  intro all
  have read : parseAddress "[]:80" = .ok ("", 80) := rfl
  exact (all "[]:80" "" 80 read).1 rfl

end FeedSieve.Settings
