import FeedSieve.Text.Utf8

/-!
# Encoded texts read back

The bytes of a character are a whole piece, so that an encoded text is decoded as itself, whether
ill-formed pieces are replaced (`decode_encode`) or refused (`decode?_encode`). Where they are refused, only
encoded texts are decoded (`decode?_eq_ok_iff`).
-/
namespace FeedSieve.Text.Utf8

/-- A character is no surrogate and lies in the range of code points. -/
theorem code_bounds (c : Char) :
    c.toNat < 0xD800 ∨ (0xE000 ≤ c.toNat ∧ c.toNat < 0x110000) := by
  rcases c.valid with low | high
  · exact .inl low
  · exact .inr ⟨high.1, high.2⟩

theorem toNat_toUInt8 {n : Nat} (h : n < 256) : n.toUInt8.toNat = n := by
  simp only [Nat.toUInt8, UInt8.toNat_ofNat']
  exact Nat.mod_eq_of_lt h

theorem continuation_last {bits low high n : Nat} (inside : low ≤ n ∧ n ≤ high) (h : n < 256)
    (rest : List UInt8) :
    continuation bits low high 1 (n.toUInt8 :: rest) = (.ok (bits * 64 + (n - 0x80)), 1) := by
  rw [continuation, toNat_toUInt8 h, if_pos inside]
  rfl

theorem continuation_more {bits low high n : Nat} (inside : low ≤ n ∧ n ≤ high) (h : n < 256)
    (owed : Nat) (rest : List UInt8) :
    continuation bits low high (owed + 1) (n.toUInt8 :: rest)
      = ((continuation (bits * 64 + (n - 0x80)) 0x80 0xBF owed rest).1,
          (continuation (bits * 64 + (n - 0x80)) 0x80 0xBF owed rest).2 + 1) := by
  rw [continuation, toNat_toUInt8 h, if_pos inside]

/-! ## First bytes -/

theorem lead?_one : ∀ n : Fin 128, lead? n.val.toUInt8 = some ⟨n, 0, 0x80, 0xBF⟩ := by decide

theorem lead?_two : ∀ q : Fin 30,
    lead? (0xC0 + (q.val + 2)).toUInt8 = some ⟨q + 2, 1, 0x80, 0xBF⟩ := by decide

/-- The first of three bytes bounds the second so that no shorter sequence and no surrogate is meant. -/
theorem lead?_three : ∀ q : Fin 16, lead? (0xE0 + q.val).toUInt8
    = some ⟨q, 2, if q.val = 0 then 0xA0 else 0x80, if q.val = 13 then 0x9F else 0xBF⟩ := by decide

/-- The first of four bytes bounds the second so that no shorter sequence is meant and the code points
are not left. -/
theorem lead?_four : ∀ q : Fin 5, lead? (0xF0 + q.val).toUInt8
    = some ⟨q, 3, if q.val = 0 then 0x90 else 0x80, if q.val = 4 then 0x8F else 0xBF⟩ := by decide

/-! ## Characters -/

theorem piece_of_lead {b : UInt8} {lead : Lead} {rest : List UInt8} {n used : Nat}
    (found : lead? b = some lead)
    (read : continuation lead.bits lead.low lead.high lead.owed rest = (.ok n, used)) :
    piece b rest = (.ok (Char.ofNat n), used) := by
  rw [piece, found]
  dsimp only
  rw [read]
  rfl

theorem piece_one {n : Nat} (single : n < 0x80) (rest : List UInt8) :
    piece n.toUInt8 rest = (.ok (Char.ofNat n), 0) :=
  piece_of_lead (lead?_one ⟨n, single⟩) rfl

theorem piece_two {n : Nat} (least : 0x80 ≤ n) (most : n < 0x800) (rest : List UInt8) :
    piece (0xC0 + n / 64).toUInt8 ((0x80 + n % 64).toUInt8 :: rest) = (.ok (Char.ofNat n), 1) := by
  have lead := lead?_two ⟨n / 64 - 2, by omega⟩
  have high : n / 64 - 2 + 2 = n / 64 := by omega
  dsimp only at lead
  rw [high] at lead
  have total : n / 64 * 64 + (0x80 + n % 64 - 0x80) = n := by omega
  refine piece_of_lead lead ?_
  dsimp only
  rw [continuation_last (by omega) (by omega), total]

theorem piece_three {n : Nat} (least : 0x800 ≤ n) (most : n < 0x10000)
    (scalar : n < 0xD800 ∨ 0xE000 ≤ n) (rest : List UInt8) :
    piece (0xE0 + n / 4096).toUInt8
      ((0x80 + n / 64 % 64).toUInt8 :: (0x80 + n % 64).toUInt8 :: rest) = (.ok (Char.ofNat n), 2) := by
  have second : (if n / 4096 = 0 then 0xA0 else 0x80) ≤ 0x80 + n / 64 % 64
      ∧ 0x80 + n / 64 % 64 ≤ (if n / 4096 = 13 then 0x9F else 0xBF) := by
    constructor <;> split <;> omega
  have total : (n / 4096 * 64 + (0x80 + n / 64 % 64 - 0x80)) * 64 + (0x80 + n % 64 - 0x80) = n := by
    omega
  refine piece_of_lead (lead?_three ⟨n / 4096, by omega⟩) ?_
  dsimp only
  rw [continuation_more second (by omega), continuation_last (by omega) (by omega), total]

theorem piece_four {n : Nat} (least : 0x10000 ≤ n) (most : n < 0x110000) (rest : List UInt8) :
    piece (0xF0 + n / 262144).toUInt8
      ((0x80 + n / 4096 % 64).toUInt8 :: (0x80 + n / 64 % 64).toUInt8 :: (0x80 + n % 64).toUInt8 :: rest)
      = (.ok (Char.ofNat n), 3) := by
  have second : (if n / 262144 = 0 then 0x90 else 0x80) ≤ 0x80 + n / 4096 % 64
      ∧ 0x80 + n / 4096 % 64 ≤ (if n / 262144 = 4 then 0x8F else 0xBF) := by
    constructor <;> split <;> omega
  have total : ((n / 262144 * 64 + (0x80 + n / 4096 % 64 - 0x80)) * 64
      + (0x80 + n / 64 % 64 - 0x80)) * 64 + (0x80 + n % 64 - 0x80) = n := by omega
  refine piece_of_lead (lead?_four ⟨n / 262144, by omega⟩) ?_
  dsimp only
  rw [continuation_more second (by omega), continuation_more (by omega) (by omega),
    continuation_last (by omega) (by omega), total]

/-- The bytes of a character are read as the character. -/
theorem piece_encodeChar (c : Char) (rest : List UInt8) :
    ∃ b more, encodeChar c = b :: more ∧ piece b (more ++ rest) = (.ok c, more.length) := by
  have bounds := code_bounds c
  unfold encodeChar
  dsimp only
  split
  · rename_i one
    exact ⟨_, [], rfl, by rw [List.nil_append, piece_one one, Char.ofNat_toNat]; rfl⟩
  split
  · rename_i one two
    exact ⟨_, [_], rfl, by rw [List.singleton_append, piece_two (by omega) two, Char.ofNat_toNat]; rfl⟩
  split
  · rename_i one two three
    refine ⟨_, [_, _], rfl, ?_⟩
    rw [List.cons_append, List.singleton_append, piece_three (by omega) three (by omega),
      Char.ofNat_toNat]
    rfl
  · rename_i one two three
    refine ⟨_, [_, _, _], rfl, ?_⟩
    rw [List.cons_append, List.cons_append, List.singleton_append, piece_four (by omega) (by omega),
      Char.ofNat_toNat]
    rfl

/-! ## Texts -/

theorem decode_encodeChar (c : Char) (rest : List UInt8) :
    decode (encodeChar c ++ rest) = c :: decode rest := by
  obtain ⟨b, more, bytes, read⟩ := piece_encodeChar c rest
  rw [bytes, List.cons_append, decode, read]
  dsimp only
  rw [List.drop_left]

/-- An encoded text is decoded as itself. -/
theorem decode_encode (s : List Char) : decode (encode s) = s := by
  induction s with
  | nil => rw [encode, List.flatMap_nil, decode]
  | cons c rest ih =>
    rw [encode, List.flatMap_cons, decode_encodeChar]
    exact congrArg (c :: ·) ih

theorem decodeFrom_encode (position : Nat) (s : List Char) : decodeFrom position (encode s) = .ok s := by
  induction s generalizing position with
  | nil => rw [encode, List.flatMap_nil, decodeFrom]
  | cons c rest ih =>
    obtain ⟨b, more, bytes, read⟩ := piece_encodeChar c (encode rest)
    have split : encode (c :: rest) = b :: (more ++ encode rest) := by
      rw [encode, List.flatMap_cons, bytes]
      rfl
    rw [split, decodeFrom, read]
    dsimp only
    rw [List.drop_left, ih]
    rfl

/-- An encoded text is well-formed throughout. -/
theorem decode?_encode (s : List Char) : decode? (encode s) = .ok s := decodeFrom_encode 0 s

/-- A byte below 128 belongs to the character it is. -/
theorem toNat_of_mem_encodeChar {c : Char} {b : UInt8} (member : b ∈ encodeChar c)
    (single : b.toNat < 0x80) : c.toNat = b.toNat := by
  have bounds := code_bounds c
  have value {n : Nat} (small : n < 256) (same : b = n.toUInt8) : b.toNat = n := by
    rw [same, toNat_toUInt8 small]
  unfold encodeChar at member
  dsimp only at member
  split at member
  · exact (value (by omega) (List.mem_singleton.mp member)).symm
  -- Every byte of a longer sequence is at least 128.
  · exfalso
    split at member
    · simp only [List.mem_cons, List.not_mem_nil, or_false] at member
      rcases member with same | same <;> have := value (by omega) same <;> omega
    · split at member
      · simp only [List.mem_cons, List.not_mem_nil, or_false] at member
        rcases member with same | same | same <;> have := value (by omega) same <;> omega
      · simp only [List.mem_cons, List.not_mem_nil, or_false] at member
        rcases member with same | same | same | same <;> have := value (by omega) same <;> omega

/-- A byte below 128 stands in an encoded text only where the character it is stands in the text. -/
theorem mem_of_mem_encode {s : List Char} {b : UInt8} (member : b ∈ encode s) (single : b.toNat < 0x80) :
    Char.ofNat b.toNat ∈ s := by
  obtain ⟨c, inside, byte⟩ := List.mem_flatMap.mp member
  rw [← toNat_of_mem_encodeChar byte single, Char.ofNat_toNat]
  exact inside

theorem encode_append (s t : List Char) : encode (s ++ t) = encode s ++ encode t :=
  List.flatMap_append

/-- The bytes of a text without a byte-order mark in front have none either. -/
theorem dropMark_encode {s : List Char} (unmarked : s.head? ≠ some (Char.ofNat 0xFEFF)) :
    dropMark (encode s) = encode s := by
  unfold dropMark
  split
  · rename_i rest bytes
    have mark : piece 0xEF (0xBB :: 0xBF :: rest) = (.ok (Char.ofNat 0xFEFF), 2) := rfl
    have read := decode_encode s
    rw [bytes, decode, mark] at read
    exact absurd (congrArg List.head? read).symm unmarked
  · rfl

/-! ## Decoded texts -/

theorem toUInt8_of_toNat {b : UInt8} {n : Nat} (same : b.toNat = n) : n.toUInt8 = b := by
  rw [← same]
  exact UInt8.ofNat_toNat

theorem toNat_ofNat {n : Nat} (valid : n.isValidChar) : (Char.ofNat n).toNat = n := by
  rw [Char.ofNat, dif_pos valid]
  rfl

theorem continuation_eq_ok {bits low high owed n used : Nat} {s : List UInt8}
    (read : continuation bits low high (owed + 1) s = (.ok n, used)) :
    ∃ b rest k, s = b :: rest ∧ (low ≤ b.toNat ∧ b.toNat ≤ high) ∧ used = k + 1
      ∧ continuation (bits * 64 + (b.toNat - 0x80)) 0x80 0xBF owed rest = (.ok n, k) := by
  cases s with
  | nil => cases read
  | cons b rest =>
    rw [continuation] at read
    split at read
    · rename_i inside
      rcases later : continuation (bits * 64 + (b.toNat - 0x80)) 0x80 0xBF owed rest with ⟨found, k⟩
      rw [later] at read
      cases read
      exact ⟨b, rest, k, rfl, inside, rfl, later⟩
    · cases read

theorem continuation_zero_eq_ok {bits low high n used : Nat} {s : List UInt8}
    (read : continuation bits low high 0 s = (.ok n, used)) : bits = n ∧ 0 = used := by
  rw [continuation] at read
  exact ⟨Except.ok.inj (Prod.ext_iff.mp read).1, (Prod.ext_iff.mp read).2⟩

/-- What a first byte promises, by the number of bytes that are owed. -/
inductive Promise (n : Nat) (lead : Lead) : Prop where
  | one (owed : lead.owed = 0) (first : n = lead.bits) (bound : lead.bits < 0x80)
  | two (owed : lead.owed = 1) (first : n = 0xC0 + lead.bits) (least : 2 ≤ lead.bits)
      (bound : lead.bits < 32) (low : 0x80 ≤ lead.low) (high : lead.high ≤ 0xBF)
  | three (owed : lead.owed = 2) (first : n = 0xE0 + lead.bits) (bound : lead.bits < 16)
      (low : 0x80 ≤ lead.low) (high : lead.high ≤ 0xBF) (least : lead.bits = 0 → 0xA0 ≤ lead.low)
      (surrogate : lead.bits = 13 → lead.high ≤ 0x9F)
  | four (owed : lead.owed = 3) (first : n = 0xF0 + lead.bits) (bound : lead.bits < 5)
      (low : 0x80 ≤ lead.low) (high : lead.high ≤ 0xBF) (least : lead.bits = 0 → 0x90 ≤ lead.low)
      (most : lead.bits = 4 → lead.high ≤ 0x8F)

theorem promise_of_lead? {b : UInt8} {lead : Lead} (found : lead? b = some lead) :
    Promise b.toNat lead := by
  unfold lead? at found
  dsimp only at found
  -- The ranges of first bytes in order: three of them start three bytes, and three start four.
  split at found
  · obtain rfl := Option.some.inj found
    refine .one rfl rfl ?_
    dsimp only
    omega
  split at found
  · cases found
  split at found
  · obtain rfl := Option.some.inj found
    refine .two rfl ?_ ?_ ?_ ?_ ?_ <;> dsimp only <;> omega
  iterate 3
    split at found
    · obtain rfl := Option.some.inj found
      refine .three rfl ?_ ?_ ?_ ?_ ?_ ?_ <;> dsimp only <;> omega
  iterate 3
    split at found
    · obtain rfl := Option.some.inj found
      refine .four rfl ?_ ?_ ?_ ?_ ?_ ?_ <;> dsimp only <;> omega
  cases found

/-- A byte behind the first one holds six bits of the code point. -/
theorem toUInt8_add_six {b : UInt8} (inside : 0x80 ≤ b.toNat) : (0x80 + (b.toNat - 0x80)).toUInt8 = b :=
  toUInt8_of_toNat (by omega)

theorem encodeChar_two {p q : Nat} (least : 2 ≤ p) (high : p < 32) (low : q < 64) :
    encodeChar (Char.ofNat (p * 64 + q)) = [(0xC0 + p).toUInt8, (0x80 + q).toUInt8] := by
  have code : (Char.ofNat (p * 64 + q)).toNat = p * 64 + q := toNat_ofNat (.inl (by omega))
  have front : (p * 64 + q) / 64 = p := by omega
  have back : (p * 64 + q) % 64 = q := by omega
  unfold encodeChar
  simp only [code, front, back]
  rw [if_neg (by omega), if_pos (by omega)]

theorem encodeChar_three {p q r : Nat} (high : p < 16) (middle : q < 64) (low : r < 64)
    (least : p = 0 → 32 ≤ q) (surrogate : p = 13 → q < 32) :
    encodeChar (Char.ofNat ((p * 64 + q) * 64 + r))
      = [(0xE0 + p).toUInt8, (0x80 + q).toUInt8, (0x80 + r).toUInt8] := by
  have valid : ((p * 64 + q) * 64 + r).isValidChar := by
    unfold Nat.isValidChar
    omega
  have front : ((p * 64 + q) * 64 + r) / 4096 = p := by omega
  have second : ((p * 64 + q) * 64 + r) / 64 % 64 = q := by omega
  have back : ((p * 64 + q) * 64 + r) % 64 = r := by omega
  unfold encodeChar
  simp only [toNat_ofNat valid, front, second, back]
  rw [if_neg (by omega), if_neg (by omega), if_pos (by omega)]

theorem encodeChar_four {p q r s : Nat} (high : p < 5) (second : q < 64) (third : r < 64) (low : s < 64)
    (least : p = 0 → 16 ≤ q) (most : p = 4 → q < 16) :
    encodeChar (Char.ofNat (((p * 64 + q) * 64 + r) * 64 + s))
      = [(0xF0 + p).toUInt8, (0x80 + q).toUInt8, (0x80 + r).toUInt8, (0x80 + s).toUInt8] := by
  have valid : (((p * 64 + q) * 64 + r) * 64 + s).isValidChar := by
    unfold Nat.isValidChar
    omega
  have front : (((p * 64 + q) * 64 + r) * 64 + s) / 262144 = p := by omega
  have next : (((p * 64 + q) * 64 + r) * 64 + s) / 4096 % 64 = q := by omega
  have third : (((p * 64 + q) * 64 + r) * 64 + s) / 64 % 64 = r := by omega
  have back : (((p * 64 + q) * 64 + r) * 64 + s) % 64 = s := by omega
  unfold encodeChar
  simp only [toNat_ofNat valid, front, next, third, back]
  rw [if_neg (by omega), if_neg (by omega), if_neg (by omega)]

/-- The bytes that are read as a character are those of the character. -/
theorem encodeChar_of_piece {b : UInt8} {rest : List UInt8} {c : Char} {used : Nat}
    (read : piece b rest = (.ok c, used)) :
    ∃ more after, rest = more ++ after ∧ more.length = used ∧ encodeChar c = b :: more := by
  unfold piece at read
  split at read
  · cases read
  · rename_i lead found
    rcases bytes : continuation lead.bits lead.low lead.high lead.owed rest with ⟨code, k⟩
    rw [bytes] at read
    cases code with
    | error fault => cases read
    | ok n =>
      cases read
      -- The bytes owed are taken one by one: their bits, behind those of the first, spell the character.
      cases promise_of_lead? found with
      | one owed first bound =>
        rw [owed] at bytes
        obtain ⟨rfl, rfl⟩ := continuation_zero_eq_ok bytes
        have code : (Char.ofNat lead.bits).toNat = lead.bits := toNat_ofNat (.inl (by omega))
        refine ⟨[], rest, rfl, rfl, ?_⟩
        rw [encodeChar, code, if_pos bound, toUInt8_of_toNat first]
      | two owed first least bound low high =>
        rw [owed] at bytes
        obtain ⟨b₁, after, k₁, rfl, in₁, rfl, last⟩ := continuation_eq_ok bytes
        obtain ⟨rfl, rfl⟩ := continuation_zero_eq_ok last
        refine ⟨[b₁], after, rfl, rfl, ?_⟩
        rw [encodeChar_two least bound (by omega), toUInt8_of_toNat first, toUInt8_add_six (by omega)]
      | three owed first bound low high least surrogate =>
        rw [owed] at bytes
        obtain ⟨b₁, rest₁, k₁, rfl, in₁, rfl, bytes₁⟩ := continuation_eq_ok bytes
        obtain ⟨b₂, after, k₂, rfl, in₂, rfl, last⟩ := continuation_eq_ok bytes₁
        obtain ⟨rfl, rfl⟩ := continuation_zero_eq_ok last
        refine ⟨[b₁, b₂], after, rfl, rfl, ?_⟩
        rw [encodeChar_three bound (by omega) (by omega) (by omega) (by omega), toUInt8_of_toNat first,
          toUInt8_add_six (by omega), toUInt8_add_six (by omega)]
      | four owed first bound low high least most =>
        rw [owed] at bytes
        obtain ⟨b₁, rest₁, k₁, rfl, in₁, rfl, bytes₁⟩ := continuation_eq_ok bytes
        obtain ⟨b₂, rest₂, k₂, rfl, in₂, rfl, bytes₂⟩ := continuation_eq_ok bytes₁
        obtain ⟨b₃, after, k₃, rfl, in₃, rfl, last⟩ := continuation_eq_ok bytes₂
        obtain ⟨rfl, rfl⟩ := continuation_zero_eq_ok last
        refine ⟨[b₁, b₂, b₃], after, rfl, rfl, ?_⟩
        rw [encodeChar_four bound (by omega) (by omega) (by omega) (by omega) (by omega),
          toUInt8_of_toNat first, toUInt8_add_six (by omega), toUInt8_add_six (by omega),
          toUInt8_add_six (by omega)]

/-- Bytes that are decoded are those of the text they are decoded as. -/
theorem encode_of_decodeFrom {position : Nat} {b : List UInt8} {s : List Char}
    (read : decodeFrom position b = .ok s) : encode s = b := by
  fun_induction decodeFrom position b generalizing s with
  | case1 =>
    cases read
    rfl
  | case2 position b rest c used found ih =>
    cases later : decodeFrom (position + 1 + used) (rest.drop used) with
    | error e =>
      rw [later] at read
      cases read
    | ok text =>
      rw [later] at read
      cases read
      obtain ⟨more, after, rfl, rfl, bytes⟩ := encodeChar_of_piece found
      rw [List.drop_left] at later ih
      rw [encode, List.flatMap_cons, bytes, ← encode, ih later]
      rfl
  | case3 => cases read

/-- Bytes are decoded exactly if they are the bytes of a text. -/
theorem decode?_eq_ok_iff {b : List UInt8} {s : List Char} : decode? b = .ok s ↔ encode s = b := by
  constructor
  · exact encode_of_decodeFrom
  · rintro rfl
    exact decode?_encode s

end FeedSieve.Text.Utf8
