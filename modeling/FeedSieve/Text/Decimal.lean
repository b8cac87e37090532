import FeedSieve.Text.Binary64

/-!
# Decimal forms of a given precision

A number written with a fixed count of digits: positionally, with an exponent, or in the shorter of the two
ways. The value is rounded exactly, a tie to the even digit.
-/
namespace FeedSieve.Text.Decimal

/-- Digits with at least so many places, zeros in front. -/
def atLeast (places n : Nat) : List Char :=
  let digits := Nat.toDigits 10 n
  List.replicate (places - digits.length) '0' ++ digits

/-- A point and the digits after it. Without digits the point is kept only if asked for. -/
def afterPoint (keepPoint : Bool) (digits : List Char) : List Char :=
  if digits = [] ∧ !keepPoint then [] else '.' :: digits

/-- The positional form of `m * 2 ^ e` with so many places after the point. -/
def positional (keepPoint : Bool) (places m : Nat) (e : Int) : List Char :=
  let (num, den) := Binary64.scaled m 1 e
  let digits := atLeast (places + 1) (Binary64.roundDiv (num * Nat.pow 10 places) den)
  let whole := digits.length - places
  digits.take whole ++ afterPoint keepPoint (digits.drop whole)

/-- The digits of `m * 2 ^ e` and the power of ten of the first one, with so many places after it. -/
def significant (places m : Nat) (e : Int) : List Char × Int :=
  if m = 0 then (List.replicate (places + 1) '0', 0)
  else
    let (num, den) := Binary64.scaled m 1 e
    let order := Binary64.decimalOrder num den
    let shift : Int := places - order
    let rounded :=
      if 0 ≤ shift then Binary64.roundDiv (num * Nat.pow 10 shift.toNat) den
      else Binary64.roundDiv num (den * Nat.pow 10 (-shift).toNat)
    let digits := Nat.toDigits 10 rounded
    if places + 1 < digits.length then (digits.take (places + 1), order + 1) else (digits, order)

/-- A power of ten as an exponent of at least two digits. -/
def exponent (power : Int) : List Char :=
  'e' :: (if power < 0 then '-' else '+') :: atLeast 2 power.natAbs

/-- Digits with a point behind the first, and their exponent. -/
def scientific (keepPoint : Bool) (digits : List Char) (power : Int) : List Char :=
  digits.take 1 ++ afterPoint keepPoint (digits.drop 1) ++ exponent power

def dropLastZeros (digits : List Char) : List Char :=
  (digits.reverse.dropWhile (· = '0')).reverse

/-- The shorter form of `m * 2 ^ e` with so many significant digits. Zeros at the end stay only if asked
for. -/
def general (keepZeros : Bool) (count m : Nat) (e : Int) : List Char :=
  let count := max count 1
  let (digits, power) := significant (count - 1) m e
  let kept := if keepZeros then digits else digits.take 1 ++ dropLastZeros (digits.drop 1)
  if -4 ≤ power ∧ power < count then
    if power < 0 then
      let zeros := List.replicate (-power - 1).toNat '0'
      '0' :: afterPoint keepZeros (zeros ++ kept)
    else
      let whole := power.toNat + 1
      let after := digits.drop whole
      digits.take whole ++ afterPoint keepZeros (if keepZeros then after else dropLastZeros after)
  else scientific keepZeros kept power

end FeedSieve.Text.Decimal
