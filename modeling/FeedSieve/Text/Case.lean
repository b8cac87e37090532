import FeedSieve.Text.Case.Table
import FeedSieve.Text.Ranges

/-!
# Upper and lower case

Full case mapping of texts, where a character may become several, and the mapping of one character
to one that case-insensitive patterns use. A capital sigma at the end of a word becomes a final
sigma.
-/
namespace FeedSieve.Text.Case

/-- The character a run table moves `c` to. -/
def shifted? (runs : Array (Nat × Nat × Nat × Nat)) (c : Char) : Option Char :=
  (runs.find? fun (first, last, step, _) =>
      first ≤ c.toNat && c.toNat ≤ last && (c.toNat - first) % step == 0).map
    fun (first, _, _, image) => Char.ofNat (image + (c.toNat - first))

def lowerChar (c : Char) : Char :=
  if c.toNat < 128 then c.toLower
  else if c.toNat = 0x130 then 'i'
  else (shifted? lowerRuns c).getD c

def upperForm (c : Char) : List Char :=
  if c.toNat < 128 then [c.toUpper]
  else match upperExpansions.find? (·.1 == c.toNat) with
    | some (_, form) => form
    | none => [(shifted? upperRuns c).getD c]

def upper (s : String) : String := String.ofList (s.toList.flatMap upperForm)

/-- Whether a capital sigma between `before` (nearest first) and `after` ends a word. -/
def isFinalSigma (before after : List Char) : Bool :=
  let ignorable := fun c : Char => Ranges.mem ignorableRanges c.toNat
  let cased := fun c : Char => Ranges.mem casedRanges c.toNat
  ((before.dropWhile ignorable).head?.any cased)
    && !((after.dropWhile ignorable).head?.any cased)

/-- Lower-case form of a text, given the characters already passed, nearest first. -/
def lowerAfter (before : List Char) : List Char → List Char
  | [] => []
  | c :: rest =>
    let form :=
      if c.toNat < 128 then [c.toLower]
      else if c.toNat = 0x3A3 then
        [if isFinalSigma before rest then Char.ofNat 0x3C2 else Char.ofNat 0x3C3]
      -- The dot of a capital I stays as a mark of its own.
      else if c.toNat = 0x130 then ['i', Char.ofNat 0x307]
      else [lowerChar c]
    form ++ lowerAfter (c :: before) rest

def lower (s : String) : String := String.ofList (lowerAfter [] s.toList)

end FeedSieve.Text.Case
