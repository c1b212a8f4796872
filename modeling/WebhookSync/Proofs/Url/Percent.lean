import WebhookSync.Url.Percent

/-!
# Percent encoding loses nothing

An encoded text is made of characters that stand for themselves, percent signs and digits
(`forall_mem_encode`).  As long as no percent sign stands for itself, the bytes of a text are read
back from its encoded form (`decodeBytes_encode`).
-/

namespace WebhookSync.Url

open Text (hexCapital hexValue?)

/-! ## Characters of an encoded text -/

theorem forall_mem_encodeByte {P : Char → Prop} (percent : P '%')
    (digit : ∀ n < 16, P (hexCapital n)) (b : UInt8) : ∀ c ∈ encodeByte b, P c := by
  have high : b.toNat / 16 < 16 := by
    have := b.toNat_lt
    omega
  have low : b.toNat % 16 < 16 := Nat.mod_lt _ (by decide)
  simp only [encodeByte, List.forall_mem_cons]
  exact ⟨percent, digit _ high, digit _ low, List.forall_mem_nil _⟩

/-- What holds of percent signs and digits, and of the characters of a text that stand for
themselves, holds of the characters of the encoded text. -/
theorem forall_mem_encode {keeps : Char → Bool} {P : Char → Prop} (percent : P '%')
    (digit : ∀ n < 16, P (hexCapital n)) {text : List Char}
    (kept : ∀ c ∈ text, keeps c = true → P c) : ∀ c ∈ encode keeps text, P c := by
  intro c member
  obtain ⟨source, inText, inChar⟩ := List.mem_flatMap.mp member
  unfold encodeChar at inChar
  split at inChar
  · rename_i keepsSource
    obtain rfl := List.mem_singleton.mp inChar
    exact kept c inText (Bool.and_eq_true_iff.mp keepsSource).2
  · obtain ⟨b, _, inByte⟩ := List.mem_flatMap.mp inChar
    exact forall_mem_encodeByte percent digit b c inByte

/-! ## Reading back -/

theorem hexValue?_hexCapital : ∀ n < 16, hexValue? (hexCapital n) = some n := by
  decide

theorem decodeBytes_cons {c : Char} (plain : c ≠ '%') (rest : List Char) :
    decodeBytes (c :: rest) = String.utf8EncodeChar c ++ decodeBytes rest := by
  rw [decodeBytes]
  rintro high low others rfl
  exact absurd rfl plain

theorem decodeBytes_encodeByte (b : UInt8) (rest : List Char) :
    decodeBytes (encodeByte b ++ rest) = b :: decodeBytes rest := by
  have high : hexValue? (hexCapital (b.toNat / 16)) = some (b.toNat / 16) :=
    hexValue?_hexCapital _ (by have := b.toNat_lt; omega)
  have low : hexValue? (hexCapital (b.toNat % 16)) = some (b.toNat % 16) :=
    hexValue?_hexCapital _ (Nat.mod_lt _ (by decide))
  have whole : UInt8.ofNat (b.toNat / 16 * 16 + b.toNat % 16) = b := by
    rw [Nat.div_add_mod', UInt8.ofNat_toNat]
  simp only [encodeByte, List.cons_append, List.nil_append, decodeBytes, high, low, whole]

theorem decodeBytes_flatMap_encodeByte (bytes : List UInt8) (rest : List Char) :
    decodeBytes (bytes.flatMap encodeByte ++ rest) = bytes ++ decodeBytes rest := by
  induction bytes with
  | nil => rfl
  | cons b bytes inductionHypothesis =>
      rw [List.flatMap_cons, List.append_assoc, decodeBytes_encodeByte, inductionHypothesis,
        List.cons_append]

section Encoding

variable {keeps : Char → Bool} (percent : keeps '%' = false)
include percent

theorem decodeBytes_encodeChar (c : Char) (rest : List Char) :
    decodeBytes (encodeChar keeps c ++ rest) = String.utf8EncodeChar c ++ decodeBytes rest := by
  unfold encodeChar
  split
  · rename_i keepsChar
    have plain : c ≠ '%' := by
      rintro rfl
      simp [percent] at keepsChar
    exact decodeBytes_cons plain rest
  · exact decodeBytes_flatMap_encodeByte _ rest

/-- The bytes of a text are read back from its encoded form. -/
theorem decodeBytes_encode (text : List Char) :
    decodeBytes (encode keeps text) = text.flatMap String.utf8EncodeChar := by
  induction text with
  | nil => rw [encode, List.flatMap_nil, List.flatMap_nil, decodeBytes]
  | cons c text inductionHypothesis =>
      rw [encode, List.flatMap_cons, decodeBytes_encodeChar percent]
      exact congrArg _ inductionHypothesis

end Encoding

end WebhookSync.Url
