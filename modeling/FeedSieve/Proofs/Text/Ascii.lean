import FeedSieve.Text.Utf8

/-!
# Texts of ASCII characters

A property of ASCII characters can be checked for each of them (`forall_ascii`). A text of ASCII bytes has
these bytes for characters (`toList_eq_letters`), which can be computed where the text itself cannot.
-/
namespace FeedSieve.Text

theorem forall_ascii {P : Char → Prop} (each : ∀ n : Fin 128, P (Char.ofNat n.val)) {c : Char}
    (ascii : c.toNat < 128) : P c := by
  have here := each ⟨c.toNat, ascii⟩
  rwa [Char.ofNat_toNat] at here

def bytes (s : String) : List UInt8 := s.toByteArray.data.toList

/-- The characters that the bytes of a text are, one by one. -/
def letters (s : String) : List Char := (bytes s).map fun b => Char.ofNat b.toNat

/-- A character whose bytes are all ASCII is its only byte. -/
theorem utf8EncodeChar_of_ascii {c : Char} (ascii : ∀ b ∈ String.utf8EncodeChar c, b.toNat < 128) :
    (String.utf8EncodeChar c).map (fun b => Char.ofNat b.toNat) = [c] := by
  have small : c.val.toNat ≤ 127 := by
    have last : ∀ n, (UInt8.ofNat (n % 64 + 128)).toNat = n % 64 + 128 := by
      intro n
      rw [UInt8.toNat_ofNat']
      omega
    refine Nat.le_of_not_lt fun more => ?_
    have high := last c.val.toNat
    -- Of a longer encoding the last byte is not ASCII.
    have member : UInt8.ofNat (c.val.toNat % 64 + 128) ∈ String.utf8EncodeChar c := by
      unfold String.utf8EncodeChar
      dsimp only
      rw [if_neg (Nat.not_le_of_lt more)]
      split
      · simp
      · split <;> simp
    have low := ascii _ member
    omega
  have single : String.utf8EncodeChar c = [UInt8.ofNat c.toNat] := if_pos small
  have back : (UInt8.ofNat c.toNat).toNat = c.toNat := by
    have below : c.toNat ≤ 127 := small
    rw [UInt8.toNat_ofNat']
    omega
  rw [single, List.map_singleton, back, Char.ofNat_toNat]

/-- A text of ASCII characters has a byte for each. -/
theorem toList_eq_letters {s : String} (ascii : ∀ b ∈ bytes s, b.toNat < 128) : s.toList = letters s := by
  have encoded : bytes s = s.toList.flatMap String.utf8EncodeChar := by
    have whole := congrArg bytes (String.ofList_toList (s := s)).symm
    rw [whole, bytes, String.toByteArray_ofList, List.utf8Encode, List.toList_data_toByteArray]
  rw [letters, encoded]
  rw [encoded] at ascii
  generalize s.toList = chars at ascii ⊢
  induction chars with
  | nil => rfl
  | cons c rest ih =>
    have first : ∀ b ∈ String.utf8EncodeChar c, b.toNat < 128 := fun b member =>
      ascii b (List.mem_flatMap.mpr ⟨c, List.mem_cons_self, member⟩)
    have later : ∀ b ∈ rest.flatMap String.utf8EncodeChar, b.toNat < 128 := fun b member =>
      ascii b (List.mem_append_right _ member)
    rw [List.flatMap_cons, List.map_append, utf8EncodeChar_of_ascii first, ← ih later,
      List.singleton_append]

theorem ascii_of_mem_letters {s : String} (ascii : ∀ b ∈ bytes s, b.toNat < 128) {c : Char}
    (member : c ∈ letters s) : c.toNat < 128 := by
  obtain ⟨b, inBytes, rfl⟩ := List.mem_map.mp member
  have each : ∀ n : Fin 128, (Char.ofNat n.val).toNat < 128 := by decide
  exact each ⟨b.toNat, ascii b inBytes⟩

end FeedSieve.Text
