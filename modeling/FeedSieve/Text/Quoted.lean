import FeedSieve.Text.Class.Printable

/-!
# Quoted texts

How a text is shown inside a message: between apostrophes, or between quotation marks when it holds
an apostrophe and no quotation mark. The backslash, the chosen mark and the usual controls are
escaped; what is not printable is spelled by number in two, four or eight hexadecimal digits.
-/
namespace FeedSieve.Text.Quoted

/-- The `width` lower-case hexadecimal digits of a number. -/
def hexDigits (width n : Nat) : List Char :=
  let digits := Nat.toDigits 16 n
  List.replicate (width - digits.length) '0' ++ digits

/-- One character inside the marks. -/
def escaped (mark c : Char) : List Char :=
  if c = mark ∨ c = '\\' then ['\\', c]
  else if c = '\t' then ['\\', 't']
  else if c = '\n' then ['\\', 'n']
  else if c = '\r' then ['\\', 'r']
  else if Class.isPrintable c then [c]
  else if c.toNat < 0x100 then '\\' :: 'x' :: hexDigits 2 c.toNat
  else if c.toNat < 0x10000 then '\\' :: 'u' :: hexDigits 4 c.toNat
  else '\\' :: 'U' :: hexDigits 8 c.toNat

def markFor (s : List Char) : Char :=
  if '\'' ∈ s ∧ '"' ∉ s then '"' else '\''

def quote (s : String) : String :=
  let mark := markFor s.toList
  String.ofList (mark :: s.toList.flatMap (escaped mark) ++ [mark])

end FeedSieve.Text.Quoted
