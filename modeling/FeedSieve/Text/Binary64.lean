import FeedSieve.Text.Number

/-!
# Double-precision numbers

Numbers with 53 significant binary digits, held exactly, so that reading and printing are arithmetic on
natural numbers. A quotient is rounded to the nearest number, a tie to the even significand. A number is
printed with the fewest digits that read back as the same number, the nearest of those.
-/
namespace FeedSieve.Text

/-- A double-precision number. A finite one is `significand * 2 ^ exponent`, negated if so flagged. -/
inductive Binary64 where
  | nan
  | infinite (negative : Bool)
  | finite (negative : Bool) (significand : Nat) (exponent : Int)
  deriving DecidableEq, Repr, Inhabited

namespace Binary64

/-- The quotient rounded to the nearest natural number, a tie to the even one. -/
def roundDiv (num den : Nat) : Nat :=
  let q := num / den
  let twice := 2 * (num % den)
  if twice < den then q
  else if den < twice then q + 1
  else if q % 2 = 0 then q else q + 1

/-- `num * 2 ^ shift / den` as a numerator and a denominator. -/
def scaled (num den : Nat) (shift : Int) : Nat × Nat :=
  if 0 ≤ shift then (num * Nat.pow 2 shift.toNat, den) else (num, den * Nat.pow 2 (-shift).toNat)

/-- The exponent of the last binary digit that is kept of `num / den`. -/
def lastExponent (num den : Nat) : Int :=
  let guess : Int := (num.log2 : Int) - den.log2 - 52
  let s := scaled num den (-guess)
  max (if s.1 < s.2 * Nat.pow 2 52 then guess - 1 else guess) (-1074)

/-- The number `m * 2 ^ exponent`, infinite if it is too large. Rounding may have given the significand one
digit too many. -/
def ofRounded (negative : Bool) (m : Nat) (exponent : Int) : Binary64 :=
  if m = Nat.pow 2 53 then
    if 971 < exponent + 1 then .infinite negative else .finite negative (Nat.pow 2 52) (exponent + 1)
  else if 971 < exponent then .infinite negative
  else .finite negative m exponent

/-- The number nearest to `num / den`, for a positive `den`. -/
def ofRatio (negative : Bool) (num den : Nat) : Binary64 :=
  if num = 0 then .finite negative 0 (-1074)
  else
    let exponent := lastExponent num den
    let s := scaled num den (-exponent)
    ofRounded negative (roundDiv s.1 s.2) exponent

def ofInt (n : Int) : Binary64 := ofRatio (n < 0) n.natAbs 1

/-- The number nearest to `digits * 10 ^ exponent`. Exponents far outside the range are cut first, so
that no huge power is computed. -/
def ofDecimal (negative : Bool) (digits : Nat) (exponent : Int) : Binary64 :=
  let length := (Nat.toDigits 10 digits).length
  if digits = 0 then .finite negative 0 (-1074)
  else if 400 < exponent + length then .infinite negative
  else if exponent + length < -400 then .finite negative 0 (-1074)
  else if 0 ≤ exponent then ofRatio negative (digits * Nat.pow 10 exponent.toNat) 1
  else ofRatio negative digits (Nat.pow 10 (-exponent).toNat)

def truncate? : Binary64 → Option Int
  | .finite negative m e =>
    let n : Nat := if 0 ≤ e then m * Nat.pow 2 e.toNat else m / Nat.pow 2 (-e).toNat
    some (if negative then -n else n)
  | _ => none

/-! ## Shortest digits -/

/-- The greatest `k` with `10 ^ k ≤ num / den`, searched from an estimate that is at most two off. -/
def decimalOrder (num den : Nat) : Int :=
  let estimate : Int := Int.fdiv (((num.log2 : Int) - den.log2) * 30103) 100000
  let reaches := fun k : Int =>
    if 0 ≤ k then den * Nat.pow 10 k.toNat ≤ num else den ≤ num * Nat.pow 10 (-k).toNat
  let candidates : List Int := [estimate + 2, estimate + 1, estimate, estimate - 1]
  (candidates.find? fun k => reaches k).getD (estimate - 2)

/-- The two neighbours of `num / den` on the grid of `count` significant digits that lie strictly
between the bounds, or on them if `closed`; the nearer one, on a tie the even one. -/
def onGrid (num den lowNum highNum boundDen : Nat) (closed : Bool) (order : Int) (count : Nat) :
    Option (Nat × Int) :=
  let unit : Int := order - count + 1
  let (n, d) := if 0 ≤ unit then (num, den * Nat.pow 10 unit.toNat) else (num * Nat.pow 10 (-unit).toNat, den)
  let below := n / d
  let inside := fun k : Nat =>
    let (x, y) :=
      if 0 ≤ unit then (k * Nat.pow 10 unit.toNat * boundDen, 1)
      else (k * boundDen, Nat.pow 10 (-unit).toNat)
    if closed then lowNum * y ≤ x && x ≤ highNum * y else lowNum * y < x && x < highNum * y
  let twice := 2 * (n % d)
  let nearer := if twice < d then below
    else if d < twice then below + 1
    else if below % 2 = 0 then below else below + 1
  let other := if nearer = below then below + 1 else below
  if inside nearer then some (nearer, unit)
  else if inside other then some (other, unit)
  else none

/-- The shortest decimal `k * 10 ^ unit` that rounds to a positive finite number. -/
def shortest (m : Nat) (e : Int) : Nat × Int :=
  let (num, den) := scaled m 1 e
  -- the bounds are `(2m - 1) * 2 ^ (e - 1)` and `(2m + 1) * 2 ^ (e - 1)`, in quarters of the unit
  let lowGap := if m = Nat.pow 2 52 ∧ -1074 < e then 1 else 2
  let (low, boundDen) := scaled (4 * m - lowGap) 4 e
  let (high, _) := scaled (4 * m + 2) 4 e
  let order := decimalOrder num den
  ((List.range 17).findSome? fun i =>
    onGrid num den low high boundDen (m % 2 = 0) order (i + 1)).getD (m, e)

/-- Removes the zeros at the end of a digit count and raises the unit. -/
def dropZeros : (steps k : Nat) → Int → Nat × Int
  | 0, k, unit => (k, unit)
  | steps + 1, k, unit =>
    if k ≠ 0 ∧ k % 10 = 0 then dropZeros steps (k / 10) (unit + 1) else (k, unit)

/-- The text of a number: positional while the point stands at most 16 places after the first digit and
at most three zeros follow it, otherwise with an exponent of at least two digits. -/
def toText : Binary64 → String
  | .nan => "nan"
  | .infinite negative => if negative then "-inf" else "inf"
  | .finite negative m e =>
    let sign := if negative then "-" else ""
    if m = 0 then sign ++ "0.0"
    else
      let (k, unit) := shortest m e
      let (k, unit) := dropZeros 20 k unit
      let digits := Nat.toDigits 10 k
      let point : Int := unit + digits.length
      let body :=
        if -4 < point ∧ point ≤ 16 then
          if point ≤ 0 then '0' :: '.' :: List.replicate (-point).toNat '0' ++ digits
          else if digits.length ≤ point.toNat then
            digits ++ List.replicate (point.toNat - digits.length) '0' ++ ['.', '0']
          else digits.take point.toNat ++ '.' :: digits.drop point.toNat
        else
          let power := point - 1
          let shown := Nat.toDigits 10 power.natAbs
          let shown := if shown.length < 2 then '0' :: shown else shown
          digits.take 1 ++ (if digits.length = 1 then [] else '.' :: digits.drop 1)
            ++ 'e' :: (if power < 0 then '-' else '+') :: shown
      sign ++ String.ofList body

/-! ## Reading -/

/-- Removes underscores that stand between digits; any other underscore is refused. -/
def joinDigits : (previous : Char) → List Char → Option (List Char)
  | previous, [] => if previous = '_' then none else some []
  | previous, c :: rest =>
    if c = '_' then
      if previous.isDigit then joinDigits '_' rest else none
    else if previous = '_' ∧ ¬ c.isDigit then none
    else (joinDigits c rest).map (c :: ·)

/-- Reads `digits[.digits][e[sign]digits]` with a digit before or after the point. -/
def readDecimal (negative : Bool) (s : List Char) : Option Binary64 :=
  let whole := s.takeWhile Char.isDigit
  let s := s.dropWhile Char.isDigit
  let (fraction, s) := match s with
    | '.' :: rest => (rest.takeWhile Char.isDigit, rest.dropWhile Char.isDigit)
    | _ => ([], s)
  let digits := whole ++ fraction
  if digits = [] then none
  else
    let value := Number.ofDigits (digits.map fun c => c.toNat - 48)
    match s with
    | [] => some (ofDecimal negative value (-(fraction.length : Int)))
    | c :: rest =>
      if c = 'e' ∨ c = 'E' then
        let (down, rest) := Number.splitSign rest
        if rest ≠ [] ∧ rest.all Char.isDigit then
          let n : Int := Number.ofDigits (rest.map fun c => c.toNat - 48)
          let power := (if down then -n else n) - fraction.length
          some (ofDecimal negative value power)
        else none
      else none

/-- Reads a number as people write it, or the names of infinity and of no number in any case. -/
def ofText? (s : String) : Option Binary64 := do
  let s := (Number.trimPadding s.toList).map fun c =>
    match Class.digitValue? c with
    | some d => Nat.digitChar d
    | none => c
  let (negative, body) := Number.splitSign s
  let name := String.ofList (body.map Char.toLower)
  if name = "inf" ∨ name = "infinity" then return .infinite negative
  else if name = "nan" then return .nan
  else
    let s ← joinDigits '\x00' s
    readDecimal negative (Number.splitSign s).2

end Binary64

end FeedSieve.Text
