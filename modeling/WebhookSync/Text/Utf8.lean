/-!
# Text from bytes

A body arrives as bytes.  Reading them as UTF-8 gives a sequence of characters and gaps: a gap
stands for the longest run of bytes that begins like a character and does not end like one, or for
a single byte that begins none.  Showing the text puts U+FFFD in place of each gap.
-/

namespace WebhookSync.Text

/-- What was read from bytes: characters, and gaps where the bytes hold none. -/
abbrev Decoded := List (Option Char)

/-- What the first byte of a character asks of the bytes that follow. -/
structure Lead where
  /-- how many bytes follow -/
  following : Nat
  /-- the least and the greatest value of the first byte that follows -/
  low : UInt8
  high : UInt8
  /-- the bits that the first byte contributes -/
  bits : Nat

/-- The first bytes of characters. -/
def lead? (b : UInt8) : Option Lead :=
  if b < 0x80 then some ⟨0, 0x80, 0xBF, b.toNat⟩
  else if b < 0xC2 then none
  else if b < 0xE0 then some ⟨1, 0x80, 0xBF, b.toNat - 0xC0⟩
  else if b = 0xE0 then some ⟨2, 0xA0, 0xBF, 0⟩
  else if b = 0xED then some ⟨2, 0x80, 0x9F, 0x0D⟩
  else if b < 0xF0 then some ⟨2, 0x80, 0xBF, b.toNat - 0xE0⟩
  else if b = 0xF0 then some ⟨3, 0x90, 0xBF, 0⟩
  else if b < 0xF4 then some ⟨3, 0x80, 0xBF, b.toNat - 0xF0⟩
  else if b = 0xF4 then some ⟨3, 0x80, 0x8F, 4⟩
  else none

/-- Read the bytes that must follow, the first of them within bounds; the rest of the bytes comes
with the character or the gap. -/
def follow (low high : UInt8) (bits : Nat) : Nat → List UInt8 → Option Char × List UInt8
  | 0, bytes => (some (Char.ofNat bits), bytes)
  | _ + 1, [] => (none, [])
  | n + 1, b :: rest =>
      if low ≤ b && b ≤ high then follow 0x80 0xBF (bits * 64 + (b.toNat - 0x80)) n rest
      else (none, b :: rest)

theorem length_follow_le (low high : UInt8) (bits n : Nat) (bytes : List UInt8) :
    (follow low high bits n bytes).2.length ≤ bytes.length := by
  induction bytes generalizing low high bits n with
  | nil => cases n <;> simp [follow]
  | cons b rest ih =>
      cases n with
      | zero => simp [follow]
      | succ n =>
          unfold follow
          split
          · exact Nat.le_succ_of_le (ih ..)
          · exact Nat.le_refl _

/-- The characters and gaps of a sequence of bytes. -/
def decode (bytes : List UInt8) : Decoded :=
  match bytes with
  | [] => []
  | b :: rest =>
      match lead? b with
      | none => none :: decode rest
      | some lead =>
          let step := follow lead.low lead.high lead.bits lead.following rest
          step.1 :: decode step.2
termination_by bytes.length
decreasing_by
  · simp
  · have := length_follow_le lead.low lead.high lead.bits lead.following rest
    simp only [List.length_cons]
    omega

/-- A text without gaps. -/
def Decoded.ofString (s : String) : Decoded :=
  s.toList.map some

/-- The text with U+FFFD in place of each gap. -/
def Decoded.show (text : Decoded) : String :=
  String.ofList (text.map (·.getD '\ufffd'))

/-- The characters of sixteen-bit units.  A unit of a pair that stands alone is a gap, and so is
half a unit at the end. -/
def decodeUnits : List Nat → Decoded
  | [] => []
  | [unit] => [if unit < 0xD800 || 0xDFFF < unit then some (Char.ofNat unit) else none]
  | first :: second :: rest =>
      if first < 0xD800 || 0xDFFF < first then
        some (Char.ofNat first) :: decodeUnits (second :: rest)
      else if first < 0xDC00 && 0xDC00 ≤ second && second ≤ 0xDFFF then
        some (Char.ofNat (0x10000 + (first - 0xD800) * 0x400 + (second - 0xDC00))) ::
          decodeUnits rest
      else none :: decodeUnits (second :: rest)

/-- The sixteen-bit units of bytes, by the way in which a unit is put together. -/
def unitsOf (join : UInt8 → UInt8 → Nat) : List UInt8 → List Nat
  | first :: second :: rest => join first second :: unitsOf join rest
  | [_] => [0xD800]
  | [] => []

/-- The text that a body shows.  A byte order mark at its beginning tells the encoding and is not
part of the text; without one the body is read as UTF-8. -/
def ofBody : List UInt8 → String
  | 0xEF :: 0xBB :: 0xBF :: rest => (decode rest).show
  | 0xFE :: 0xFF :: rest => (decodeUnits (unitsOf (fun h l => h.toNat * 256 + l.toNat) rest)).show
  | 0xFF :: 0xFE :: rest => (decodeUnits (unitsOf (fun l h => h.toNat * 256 + l.toNat) rest)).show
  | bytes => (decode bytes).show

end WebhookSync.Text
