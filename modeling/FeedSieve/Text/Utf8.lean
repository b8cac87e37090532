/-!
# UTF-8

Encoding and decoding of texts as bytes. A decoder either replaces each ill-formed piece, which is the
longest start of a well-formed sequence or a single byte, by the replacement character, or stops at the
first one and says where it is.
-/
namespace FeedSieve.Text.Utf8

def encodeChar (c : Char) : List UInt8 :=
  let n := c.toNat
  if n < 0x80 then [n.toUInt8]
  else if n < 0x800 then [(0xC0 + n / 64).toUInt8, (0x80 + n % 64).toUInt8]
  else if n < 0x10000 then
    [(0xE0 + n / 4096).toUInt8, (0x80 + n / 64 % 64).toUInt8, (0x80 + n % 64).toUInt8]
  else
    [(0xF0 + n / 262144).toUInt8, (0x80 + n / 4096 % 64).toUInt8, (0x80 + n / 64 % 64).toUInt8,
      (0x80 + n % 64).toUInt8]

def encode (s : List Char) : List UInt8 := s.flatMap encodeChar

def width (c : Char) : Nat := (encodeChar c).length

inductive Fault where
  | invalidStart | invalidContinuation | unexpectedEnd
  deriving DecidableEq, Repr

/-- How a sequence begins: its leading bits, the bytes still owed, and the least and the greatest byte
that may come next. -/
structure Lead where
  bits : Nat
  owed : Nat
  low : Nat
  high : Nat
  deriving DecidableEq, Repr

/-- What a first byte promises, if it can start a character. -/
def lead? (b : UInt8) : Option Lead :=
  let n := b.toNat
  if n < 0x80 then some ⟨n, 0, 0x80, 0xBF⟩
  else if n < 0xC2 then none
  else if n < 0xE0 then some ⟨n - 0xC0, 1, 0x80, 0xBF⟩
  -- Second bytes are bounded where they would spell a shorter sequence, a surrogate or no code point.
  else if n = 0xE0 then some ⟨0, 2, 0xA0, 0xBF⟩
  else if n = 0xED then some ⟨0xD, 2, 0x80, 0x9F⟩
  else if n < 0xF0 then some ⟨n - 0xE0, 2, 0x80, 0xBF⟩
  else if n = 0xF0 then some ⟨0, 3, 0x90, 0xBF⟩
  else if n < 0xF4 then some ⟨n - 0xF0, 3, 0x80, 0xBF⟩
  else if n = 0xF4 then some ⟨4, 3, 0x80, 0x8F⟩
  else none

/-- Reads the bytes owed. The result is the code point or the fault, and how many bytes belong to it. -/
def continuation (bits low high : Nat) : (owed : Nat) → List UInt8 → Except Fault Nat × Nat
  | 0, _ => (.ok bits, 0)
  | _ + 1, [] => (.error .unexpectedEnd, 0)
  | owed + 1, b :: rest =>
    if low ≤ b.toNat ∧ b.toNat ≤ high then
      let (found, used) := continuation (bits * 64 + (b.toNat - 0x80)) 0x80 0xBF owed rest
      (found, used + 1)
    else (.error .invalidContinuation, 0)

/-- The first character or fault of a non-empty sequence, and how many bytes after the first belong to
it. -/
def piece (b : UInt8) (rest : List UInt8) : Except Fault Char × Nat :=
  match lead? b with
  | none => (.error .invalidStart, 0)
  | some lead =>
    let (found, used) := continuation lead.bits lead.low lead.high lead.owed rest
    (found.map Char.ofNat, used)

/-- Decodes bytes, with the replacement character for each ill-formed piece. -/
def decode : List UInt8 → List Char
  | [] => []
  | b :: rest =>
    match piece b rest with
    | (.ok c, used) => c :: decode (rest.drop used)
    | (.error _, used) => Char.ofNat 0xFFFD :: decode (rest.drop used)
  termination_by s => s.length
  decreasing_by all_goals (simp only [List.length_cons, List.length_drop]; omega)

/-- The first ill-formed piece of a byte sequence. -/
structure Defect where
  fault : Fault
  first : UInt8
  position : Nat
  length : Nat
  deriving DecidableEq, Repr

/-- Decodes bytes that start at a position, up to the first ill-formed piece. -/
def decodeFrom (position : Nat) : List UInt8 → Except Defect (List Char)
  | [] => .ok []
  | b :: rest =>
    match piece b rest with
    | (.ok c, used) => (decodeFrom (position + 1 + used) (rest.drop used)).map (c :: ·)
    | (.error fault, used) => .error ⟨fault, b, position, used + 1⟩
  termination_by s => s.length
  decreasing_by simp only [List.length_cons, List.length_drop]; omega

/-- Decodes bytes that are well-formed throughout. -/
def decode? (s : List UInt8) : Except Defect (List Char) := decodeFrom 0 s

def dropMark : List UInt8 → List UInt8
  | 0xEF :: 0xBB :: 0xBF :: rest => rest
  | s => s

end FeedSieve.Text.Utf8
