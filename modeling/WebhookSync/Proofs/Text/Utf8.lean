import WebhookSync.Text.Utf8

/-!
# Text survives its way through bytes

The bytes of a text are read back as that text, without gaps (`decode_toUTF8`).  A character takes
up one to four bytes; the first one tells how many follow, and within which bounds the next one is.
-/

namespace WebhookSync.Text

deriving instance DecidableEq for Lead

/-! ## First bytes -/

theorem lead?_one : ∀ bits < 0x80, lead? (.ofNat bits) = some ⟨0, 0x80, 0xBF, bits⟩ := by
  decide

theorem lead?_two :
    ∀ bits < 0x20, 2 ≤ bits → lead? (.ofNat (bits + 0xC0)) = some ⟨1, 0x80, 0xBF, bits⟩ := by
  decide

theorem lead?_three :
    ∀ bits < 0x10, lead? (.ofNat (bits + 0xE0)) =
      some ⟨2, if bits = 0 then 0xA0 else 0x80, if bits = 13 then 0x9F else 0xBF, bits⟩ := by
  decide

theorem lead?_four :
    ∀ bits < 5, lead? (.ofNat (bits + 0xF0)) =
      some ⟨3, if bits = 0 then 0x90 else 0x80, if bits = 4 then 0x8F else 0xBF, bits⟩ := by
  decide

/-! ## Bytes that follow -/

theorem follow_zero (low high : UInt8) (bits : Nat) (bytes : List UInt8) :
    follow low high bits 0 bytes = (some (Char.ofNat bits), bytes) := by
  rw [follow]

/-- A byte within the bounds adds six bits. -/
theorem follow_ofNat {low high : UInt8} {byte : Nat} (least : low.toNat ≤ byte + 128)
    (greatest : byte + 128 ≤ high.toNat) (bits n : Nat) (rest : List UInt8) :
    follow low high bits (n + 1) (.ofNat (byte + 128) :: rest) =
      follow 0x80 0xBF (bits * 64 + byte) n rest := by
  have isByte : (UInt8.ofNat (byte + 128)).toNat = byte + 128 :=
    UInt8.toNat_ofNat_of_lt (Nat.lt_of_le_of_lt greatest high.toNat_lt)
  have within : (low ≤ .ofNat (byte + 128) && .ofNat (byte + 128) ≤ high) = true := by
    simp only [Bool.and_eq_true, decide_eq_true_eq, UInt8.le_iff_toNat_le, isByte]
    exact ⟨least, greatest⟩
  rw [follow, if_pos within, isByte, Nat.add_sub_cancel]

/-- The bytes behind the second one have no bounds of their own. -/
theorem follow_tail {byte : Nat} (small : byte < 64) (bits n : Nat) (rest : List UInt8) :
    follow 0x80 0xBF bits (n + 1) (.ofNat (byte + 128) :: rest) =
      follow 0x80 0xBF (bits * 64 + byte) n rest := by
  refine follow_ofNat ?_ ?_ bits n rest
  · exact Nat.le_add_left 128 byte
  · exact Nat.add_le_add_right (Nat.le_of_lt_succ small) 128

/-! ## Characters -/

section Characters

variable {v : Nat} (rest : List UInt8)

theorem decode_one (small : v < 0x80) :
    decode (.ofNat v :: rest) = some (Char.ofNat v) :: decode rest := by
  rw [decode, lead?_one v small]
  rfl

theorem decode_two (least : 0x80 ≤ v) (greatest : v < 0x800) :
    decode (.ofNat (v / 64 % 32 + 192) :: .ofNat (v % 64 + 128) :: rest) =
      some (Char.ofNat v) :: decode rest := by
  have whole : v / 64 % 32 * 64 + v % 64 = v := by omega
  rw [decode, lead?_two _ (by omega) (by omega)]
  simp only [follow_tail (Nat.mod_lt v (by decide : 0 < 64)), whole, follow_zero]

theorem decode_three (least : 0x800 ≤ v) (greatest : v < 0x10000)
    (valid : v < 0xD800 ∨ 0xDFFF < v) :
    decode (.ofNat (v / 4096 % 16 + 224) :: .ofNat (v / 64 % 64 + 128) ::
        .ofNat (v % 64 + 128) :: rest) = some (Char.ofNat v) :: decode rest := by
  have whole : (v / 4096 % 16 * 64 + v / 64 % 64) * 64 + v % 64 = v := by omega
  rw [decode, lead?_three _ (Nat.mod_lt _ (by decide))]
  have second (bits n : Nat) (more : List UInt8) :
      follow (if v / 4096 % 16 = 0 then 0xA0 else 0x80)
          (if v / 4096 % 16 = 13 then 0x9F else 0xBF) bits (n + 1)
          (.ofNat (v / 64 % 64 + 128) :: more) =
        follow 0x80 0xBF (bits * 64 + v / 64 % 64) n more := by
    apply follow_ofNat
    · split
      · change 160 ≤ _
        omega
      · change 128 ≤ _
        omega
    · split
      · change _ ≤ 159
        omega
      · change _ ≤ 191
        omega
  simp only [second, follow_tail (Nat.mod_lt v (by decide : 0 < 64)), whole, follow_zero]

theorem decode_four (least : 0x10000 ≤ v) (greatest : v < 0x110000) :
    decode (.ofNat (v / 262144 % 8 + 240) :: .ofNat (v / 4096 % 64 + 128) ::
        .ofNat (v / 64 % 64 + 128) :: .ofNat (v % 64 + 128) :: rest) =
      some (Char.ofNat v) :: decode rest := by
  have whole :
      ((v / 262144 % 8 * 64 + v / 4096 % 64) * 64 + v / 64 % 64) * 64 + v % 64 = v := by omega
  rw [decode, lead?_four _ (by omega)]
  have second (bits n : Nat) (more : List UInt8) :
      follow (if v / 262144 % 8 = 0 then 0x90 else 0x80)
          (if v / 262144 % 8 = 4 then 0x8F else 0xBF) bits (n + 1)
          (.ofNat (v / 4096 % 64 + 128) :: more) =
        follow 0x80 0xBF (bits * 64 + v / 4096 % 64) n more := by
    apply follow_ofNat
    · split
      · change 144 ≤ _
        omega
      · change 128 ≤ _
        omega
    · split
      · change _ ≤ 143
        omega
      · change _ ≤ 191
        omega
  simp only [second, follow_tail (Nat.mod_lt (v / 64) (by decide : 0 < 64)),
    follow_tail (Nat.mod_lt v (by decide : 0 < 64)), whole, follow_zero]

end Characters

/-- The bytes of a character are read back as the character. -/
theorem decode_utf8EncodeChar (c : Char) (rest : List UInt8) :
    decode (String.utf8EncodeChar c ++ rest) = some c :: decode rest := by
  have valid : c.val.toNat < 0xD800 ∨ 0xDFFF < c.val.toNat ∧ c.val.toNat < 0x110000 := c.valid
  have isChar : Char.ofNat c.val.toNat = c := Char.ofNat_toNat c
  unfold String.utf8EncodeChar
  generalize c.val.toNat = v at valid isChar ⊢
  rw [← isChar]
  dsimp only
  split
  · exact decode_one rest (by omega)
  · split
    · exact decode_two rest (by omega) (by omega)
    · split
      · exact decode_three rest (by omega) (by omega) (by omega)
      · exact decode_four rest (by omega) (by omega)

/-- The bytes of a text are those of its characters. -/
theorem bytes_toUTF8 (text : String) :
    text.toUTF8.data.toList = text.toList.flatMap String.utf8EncodeChar := by
  have encoded : text.toUTF8 = text.toList.utf8Encode := by
    rw [← String.toByteArray_ofList, String.ofList_toList]
    rfl
  rw [encoded, List.utf8Encode, List.toList_data_toByteArray]

/-- The bytes of a text are read back as the text. -/
theorem decode_toUTF8 (text : String) : decode text.toUTF8.data.toList = .ofString text := by
  rw [bytes_toUTF8, Decoded.ofString]
  induction text.toList with
  | nil => rw [List.flatMap_nil, decode, List.map_nil]
  | cons c rest ih => rw [List.flatMap_cons, decode_utf8EncodeChar, ih, List.map_cons]

end WebhookSync.Text
