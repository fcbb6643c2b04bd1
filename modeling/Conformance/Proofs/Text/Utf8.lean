import Conformance.Text.Utf8

/-! # Reading UTF-8

The bytes of a character are read back as that character, whatever follows them: the first byte
tells how many follow, and the range for the second byte leaves out nothing that is written. So a
text that was encoded is read back whole, and nothing in it is shown as a replacement.
-/

namespace Conformance.Text

/-! ## The bytes of a character -/

section Bytes

variable {n : Nat} {bytes : List UInt8}

theorem Lead.finish_cons {k code low high : Nat} (byte : n < 0x100) (above : low ≤ n)
    (below : n ≤ high) : Lead.finish (k + 1) code low high (n.toUInt8 :: bytes) =
      Lead.finish k (code * 0x40 + (n - 0x80)) 0x80 0xBF bytes := by
  rw [Lead.finish, UInt8.toNat_ofNat_of_lt' byte, if_pos ⟨above, below⟩]

theorem Lead.finish_continuation (k code m : Nat) :
    Lead.finish (k + 1) code 0x80 0xBF ((0x80 + m % 0x40).toUInt8 :: bytes) =
      Lead.finish k (code * 0x40 + m % 0x40) 0x80 0xBF bytes := by
  rw [Lead.finish_cons (by omega) (by omega) (by omega), Nat.add_sub_cancel_left]

theorem firstPart_of_lead {b following bits low high : Nat} (byte : b < 0x100) (several : 0x80 ≤ b)
    (announced : Lead.ofByte? b = some ⟨following, bits, low, high⟩) {code : Nat}
    {rest : List UInt8} (finished : Lead.finish following bits low high bytes = (some code, rest)) :
    firstPart b.toUInt8 bytes = (some (Char.ofNat code), rest) := by
  rw [firstPart, UInt8.toNat_ofNat_of_lt' byte, if_neg (Nat.not_lt.mpr several), announced]
  simp only [finished, Option.map_some]

theorem firstPart_one (one : n < 0x80) :
    firstPart n.toUInt8 bytes = (some (Char.ofNat n), bytes) := by
  rw [firstPart, UInt8.toNat_ofNat_of_lt' (Nat.lt_trans one (by decide)), if_pos one]

theorem firstPart_two (above : 0x80 ≤ n) (below : n < 0x800) :
    firstPart (0xC0 + n / 0x40).toUInt8 ((0x80 + n % 0x40).toUInt8 :: bytes) =
      (some (Char.ofNat n), bytes) := by
  have announced : Lead.ofByte? (0xC0 + n / 0x40) = some ⟨1, n / 0x40, 0x80, 0xBF⟩ := by
    rw [Lead.ofByte?, if_neg (by omega), if_pos (by omega), Nat.add_sub_cancel_left]
  refine firstPart_of_lead (by omega) (by omega) announced ?_
  rw [Lead.finish_continuation, Nat.div_add_mod', Lead.finish]

theorem firstPart_three (above : 0x800 ≤ n) (below : n < 0x10000)
    (no_surrogate : n < 0xD800 ∨ 0xDFFF < n) :
    firstPart (0xE0 + n / 0x1000).toUInt8
        ((0x80 + n / 0x40 % 0x40).toUInt8 :: (0x80 + n % 0x40).toUInt8 :: bytes) =
      (some (Char.ofNat n), bytes) := by
  have announced : Lead.ofByte? (0xE0 + n / 0x1000) =
      some ⟨2, n / 0x1000, if 0xE0 + n / 0x1000 = 0xE0 then 0xA0 else 0x80,
        if 0xE0 + n / 0x1000 = 0xED then 0x9F else 0xBF⟩ := by
    rw [Lead.ofByte?, if_neg (by omega), if_neg (by omega), if_pos (by omega),
      Nat.add_sub_cancel_left]
  have bits : n / 0x1000 * 0x40 + n / 0x40 % 0x40 = n / 0x40 := by omega
  refine firstPart_of_lead (by omega) (by omega) announced ?_
  rw [Lead.finish_cons (by omega) (by split <;> omega) (by split <;> omega),
    Nat.add_sub_cancel_left, bits, Lead.finish_continuation, Nat.div_add_mod', Lead.finish]

theorem firstPart_four (above : 0x10000 ≤ n) (below : n < 0x110000) :
    firstPart (0xF0 + n / 0x40000).toUInt8
        ((0x80 + n / 0x1000 % 0x40).toUInt8 :: (0x80 + n / 0x40 % 0x40).toUInt8 ::
          (0x80 + n % 0x40).toUInt8 :: bytes) =
      (some (Char.ofNat n), bytes) := by
  have announced : Lead.ofByte? (0xF0 + n / 0x40000) =
      some ⟨3, n / 0x40000, if 0xF0 + n / 0x40000 = 0xF0 then 0x90 else 0x80,
        if 0xF0 + n / 0x40000 = 0xF4 then 0x8F else 0xBF⟩ := by
    rw [Lead.ofByte?, if_neg (by omega), if_neg (by omega), if_neg (by omega), if_pos (by omega),
      Nat.add_sub_cancel_left]
  have bits : n / 0x40000 * 0x40 + n / 0x1000 % 0x40 = n / 0x1000 := by omega
  have more_bits : n / 0x1000 * 0x40 + n / 0x40 % 0x40 = n / 0x40 := by omega
  refine firstPart_of_lead (by omega) (by omega) announced ?_
  rw [Lead.finish_cons (by omega) (by split <;> omega) (by split <;> omega),
    Nat.add_sub_cancel_left, bits, Lead.finish_continuation, more_bits,
    Lead.finish_continuation, Nat.div_add_mod', Lead.finish]

end Bytes

/-! ## Texts -/

theorem utf8Parts_encodeChar_append (c : Char) (rest : List UInt8) :
    utf8Parts (encodeChar c ++ rest) = some c :: utf8Parts rest := by
  have valid : c.toNat < 0xD800 ∨ 0xDFFF < c.toNat ∧ c.toNat < 0x110000 := c.valid
  simp only [encodeChar]
  split
  · simp only [List.cons_append, List.nil_append, utf8Parts]
    rw [firstPart_one ‹_›, Char.ofNat_toNat]
  split
  · simp only [List.cons_append, List.nil_append, utf8Parts]
    rw [firstPart_two (by omega) ‹_›, Char.ofNat_toNat]
  split
  · simp only [List.cons_append, List.nil_append, utf8Parts]
    rw [firstPart_three (by omega) ‹_› (by omega), Char.ofNat_toNat]
  · simp only [List.cons_append, List.nil_append, utf8Parts]
    rw [firstPart_four (by omega) (by omega), Char.ofNat_toNat]

theorem utf8Parts_encode (text : List Char) : utf8Parts (encode text) = text.map some := by
  induction text with
  | nil => simp [encode, utf8Parts]
  | cons c text ih =>
    rw [encode, List.flatMap_cons, utf8Parts_encodeChar_append, List.map_cons, ← encode, ih]

theorem decodeLossy_encode (text : List Char) : decodeLossy (encode text) = text := by
  rw [decodeLossy, utf8Parts_encode, List.map_map]
  exact List.map_id text

/-- A byte below 128 stands for itself. -/
theorem toNat_of_mem_encodeChar {c : Char} {b : UInt8} (among : b ∈ encodeChar c)
    (ascii : b.toNat < 0x80) : c.toNat = b.toNat := by
  have valid : c.toNat < 0xD800 ∨ 0xDFFF < c.toNat ∧ c.toNat < 0x110000 := c.valid
  simp only [encodeChar] at among
  split at among
  · rw [List.mem_singleton.mp among, Nat.toUInt8, UInt8.toNat_ofNat_of_lt' (Nat.lt_trans ‹_› (by decide))]
  -- The first byte of a longer character is at least 192, the others are at least 128.
  split at among
  · simp only [List.mem_cons, List.not_mem_nil, or_false] at among
    rcases among with rfl | rfl <;> simp only [Nat.toUInt8, UInt8.toNat_ofNat'] at ascii <;> omega
  split at among
  · simp only [List.mem_cons, List.not_mem_nil, or_false] at among
    rcases among with rfl | rfl | rfl <;>
      simp only [Nat.toUInt8, UInt8.toNat_ofNat'] at ascii <;> omega
  · simp only [List.mem_cons, List.not_mem_nil, or_false] at among
    rcases among with rfl | rfl | rfl | rfl <;>
      simp only [Nat.toUInt8, UInt8.toNat_ofNat'] at ascii <;> omega

theorem encodeChar_eq (c : Char) : encodeChar c = String.utf8EncodeChar c := by
  have valid : c.toNat < 0xD800 ∨ 0xDFFF < c.toNat ∧ c.toNat < 0x110000 := c.valid
  simp only [encodeChar, String.utf8EncodeChar, ← Char.toNat_val] at valid ⊢
  generalize c.val.toNat = n at valid ⊢
  split
  · rw [if_pos (by omega)]
  split
  · have first : n / 64 % 32 + 192 = 0xC0 + n / 0x40 := by omega
    rw [if_neg (by omega), if_pos (by omega), first, Nat.add_comm (n % 64)]
  split
  · have first : n / 4096 % 16 + 224 = 0xE0 + n / 0x1000 := by omega
    rw [if_neg (by omega), if_neg (by omega), if_pos (by omega), first, Nat.add_comm (n % 64),
      Nat.add_comm (n / 64 % 64)]
  · have first : n / 262144 % 8 + 240 = 0xF0 + n / 0x40000 := by omega
    rw [if_neg (by omega), if_neg (by omega), if_neg (by omega), first, Nat.add_comm (n % 64),
      Nat.add_comm (n / 64 % 64), Nat.add_comm (n / 4096 % 64)]

/-- The bytes of a text are those that hold it as a string. -/
theorem encode_toList (s : String) : encode s.toList = s.toUTF8.data.toList := by
  have each : encodeChar = String.utf8EncodeChar := funext encodeChar_eq
  rw [encode, each, String.toUTF8, ← String.utf8Encode_toList, List.utf8Encode,
    List.data_toByteArray]

end Conformance.Text
