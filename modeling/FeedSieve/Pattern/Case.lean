import FeedSieve.Text.Case

/-!
# Letters that differ in case

Patterns may ignore case. Two characters are then the same if their lower-case forms are, or if those
forms share an upper-case form. `variants` lists all characters that are the same as a given one.
-/
namespace FeedSieve.Pattern

inductive Folding where
  | exact
  | ascii
  | full
  deriving DecidableEq, Repr, Inhabited

namespace Folding

/-- Lower-case characters that share an upper-case form. -/
def kin : List (List Nat) := [
  [0x69, 0x131], [0x73, 0x17F], [0xB5, 0x3BC], [0x345, 0x3B9, 0x1FBE], [0x390, 0x1FD3],
  [0x3B0, 0x1FE3], [0x3B2, 0x3D0], [0x3B5, 0x3F5], [0x3B8, 0x3D1], [0x3BA, 0x3F0],
  [0x3C0, 0x3D6], [0x3C1, 0x3F1], [0x3C2, 0x3C3], [0x3C6, 0x3D5], [0x432, 0x1C80],
  [0x434, 0x1C81], [0x43E, 0x1C82], [0x441, 0x1C83], [0x442, 0x1C84, 0x1C85],
  [0x44A, 0x1C86], [0x463, 0x1C87], [0x1C88, 0xA64B], [0x1E61, 0x1E9B], [0xFB05, 0xFB06]]

/-- The lower-case form that comparison uses. -/
def lower (f : Folding) (c : Char) : Char :=
  match f with
  | .exact => c
  | .ascii => c.toLower
  | .full => Text.Case.lowerChar c

/-- The characters whose lower-case form is `c`. -/
def preimages (c : Char) : List Char :=
  let moved := Text.Case.lowerRuns.toList.filterMap fun (first, last, step, image) =>
    if image ≤ c.toNat ∧ c.toNat ≤ image + (last - first) ∧ (c.toNat - image) % step = 0 then
      some (Char.ofNat (first + (c.toNat - image)))
    else none
  (c :: c.toUpper :: Char.ofNat 0x130 :: moved).filter fun d => Text.Case.lowerChar d == c

/-- All characters that are the same as `c`. -/
def variants (f : Folding) (c : Char) : List Char :=
  match f with
  | .exact => [c]
  | .ascii => [c.toLower, c.toUpper]
  | .full =>
    let low := Text.Case.lowerChar c
    match kin.find? (·.contains low.toNat) with
    | some codes => (codes.map Char.ofNat).flatMap preimages
    | none => preimages low

end Folding

end FeedSieve.Pattern
