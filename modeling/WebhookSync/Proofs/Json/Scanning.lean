import WebhookSync.Json.Scan
import WebhookSync.Proofs.Json.Grammar

/-!
# Scanning words

Each step of the scanner takes from the front of a text the word that the grammar puts there, and
leaves the rest: blanks, the characters of a string, and the digits of a number.
-/

namespace WebhookSync.Json

open Text (Decoded)

/-! ## Blanks -/

/-- The characters of a text, all of them read. -/
def seen (text : List Char) : Decoded :=
  text.map some

@[simp]
theorem seen_nil : seen [] = [] :=
  rfl

@[simp]
theorem seen_cons (c : Char) (text : List Char) : seen (c :: text) = some c :: seen text :=
  rfl

@[simp]
theorem seen_append (text other : List Char) : seen (text ++ other) = seen text ++ seen other :=
  List.map_append

theorem isBlank_iff {c : Char} :
    c ∈ blanks ↔ (c == ' ' || c == '\n' || c == '\t' || c == '\r') = true := by
  simp only [blanks, List.mem_cons, List.not_mem_nil, or_false, Bool.or_eq_true, beq_iff_eq,
    or_assoc]

theorem skipBlank_append {blank : List Char} (isBlank : IsBlank blank) (rest : Decoded) :
    skipBlank (seen blank ++ rest) = skipBlank rest := by
  induction blank with
  | nil => rfl
  | cons c blank ih =>
      rw [seen_cons, List.cons_append, skipBlank, if_pos (isBlank_iff.mp (isBlank c (by simp)))]
      exact ih fun other member => isBlank other (List.mem_cons_of_mem c member)

theorem skipBlank_cons {c : Char} (notBlank : c ∉ blanks) (rest : Decoded) :
    skipBlank (some c :: rest) = some c :: rest := by
  rw [skipBlank, if_neg fun isBlank => notBlank (isBlank_iff.mpr isBlank)]

/-! ## Strings -/

theorem hexValue?_of_isHexDigit {value : Nat} {c : Char} (digit : IsHexDigit value c) :
    Text.hexValue? c = some value := by
  have all : ∀ n < 103, ∀ v < 16, IsHexDigit v (Char.ofNat n) →
      Text.hexValue? (Char.ofNat n) = some v := by
    unfold IsHexDigit
    decide +kernel
  have small : value < 16 := (List.getElem?_eq_some_iff.mp digit).1
  have low : c.toNat < 103 := by
    have lowered : ∀ lower ∈ hexDigits, lower.toNat < 103 := by simp [hexDigits]
    have isLow := lowered _ (List.mem_of_getElem? digit)
    unfold Char.toLower at isLow
    split at isLow
    · rename_i capital
      exact Nat.lt_of_le_of_lt (UInt32.le_iff_toNat_le.mp capital.2) (by decide)
    · exact isLow
  have read := all c.toNat low value small
  rw [Char.ofNat_toNat] at read
  exact read digit

section ScanString

variable (rest : Decoded)

theorem scanString_quote : scanString (some '"' :: rest) = ([], .ok rest) := by
  rw [scanString.eq_def]
  dsimp only
  rw [if_pos rfl]

theorem scanString_plain {c : Char} (printable : ' ' ≤ c) (notQuote : c ≠ '"')
    (notBackslash : c ≠ '\\') :
    scanString (some c :: rest) = (.char c :: (scanString rest).1, (scanString rest).2) := by
  rw [scanString.eq_def]
  dsimp only
  rw [if_neg notQuote, if_neg notBackslash, if_neg (Char.not_lt.mpr printable)]

theorem scanString_escape {c letter : Char} (known : (letter, c) ∈ escapes) :
    scanString (some '\\' :: some letter :: rest) =
      (.char c :: (scanString rest).1, (scanString rest).2) := by
  simp only [escapes, List.mem_cons, Prod.mk.injEq, List.not_mem_nil, or_false] at known
  rcases known with ⟨rfl, rfl⟩ | ⟨rfl, rfl⟩ | ⟨rfl, rfl⟩ | ⟨rfl, rfl⟩ | ⟨rfl, rfl⟩ |
    ⟨rfl, rfl⟩ | ⟨rfl, rfl⟩ | ⟨rfl, rfl⟩ <;> rw [scanString.eq_def] <;> rfl

/-- The digits of a unit are read as the unit. -/
theorem scanString_unit {value : Nat} {text : List Char} (spelled : SpellsUnit value text) :
    scanString (seen text ++ rest) =
      (.unit value :: (scanString rest).1, (scanString rest).2) := by
  cases spelled with
  | @digits p q r s a b c d first second third fourth =>
      have isUnit : fourDigits? (some a) (some b) (some c) (some d) =
          some (((p * 16 + q) * 16 + r) * 16 + s) := by
        simp [fourDigits?, hexValue?_of_isHexDigit first, hexValue?_of_isHexDigit second,
          hexValue?_of_isHexDigit third, hexValue?_of_isHexDigit fourth]
      simp [scanString, isUnit]

end ScanString

/-- A character that is a unit of its own is none of a pair. -/
theorem joinPieces_unit (ending : Except Fault Decoded) (c : Char) (pieces : List Piece) :
    joinPieces ending (.unit c.toNat :: pieces) =
      (joinPieces ending pieces).map (some c :: ·) := by
  have alone : (c.toNat < 0xD800 || 0xDFFF < c.toNat) = true := by
    rw [Bool.or_eq_true, decide_eq_true_eq, decide_eq_true_eq]
    exact c.valid.imp_right And.left
  rw [joinPieces.eq_def]
  dsimp only
  rw [if_pos alone, Char.ofNat_toNat]

/-- The two units of a character beyond U+FFFF are joined. -/
theorem joinPieces_pair (ending : Except Fault Decoded) {c : Char} (beyond : 0x10000 ≤ c.toNat)
    (pieces : List Piece) :
    joinPieces ending (.unit (0xD800 + (c.toNat - 0x10000) / 0x400) ::
        .unit (0xDC00 + (c.toNat - 0x10000) % 0x400) :: pieces) =
      (joinPieces ending pieces).map (some c :: ·) := by
  have valid : c.toNat < 0xD800 ∨ 0xDFFF < c.toNat ∧ c.toNat < 0x110000 := c.valid
  have isChar : Char.ofNat c.toNat = c := Char.ofNat_toNat c
  generalize c.toNat = code at beyond valid isChar
  have paired : ¬(0xD800 + (code - 0x10000) / 0x400 < 0xD800 ||
      0xDFFF < 0xD800 + (code - 0x10000) / 0x400) = true := by
    rw [Bool.or_eq_true, decide_eq_true_eq, decide_eq_true_eq]
    omega
  have isHigh : ¬0xDC00 ≤ 0xD800 + (code - 0x10000) / 0x400 := by omega
  have isLow : (0xDC00 ≤ 0xDC00 + (code - 0x10000) % 0x400 &&
      0xDC00 + (code - 0x10000) % 0x400 ≤ 0xDFFF) = true := by
    rw [Bool.and_eq_true, decide_eq_true_eq, decide_eq_true_eq]
    omega
  have whole : 0x10000 + (0xD800 + (code - 0x10000) / 0x400 - 0xD800) * 0x400 +
      (0xDC00 + (code - 0x10000) % 0x400 - 0xDC00) = code := by omega
  rw [joinPieces.eq_def]
  dsimp only
  rw [if_neg paired, if_neg isHigh, if_pos isLow, whole, isChar]

/-- The pieces of a string, joined, are its characters. -/
theorem SpellsChars.scan {chars text : List Char} (spelled : SpellsChars chars text)
    (rest : Decoded) :
    ∃ pieces, scanString (seen text ++ some '"' :: rest) = (pieces, .ok rest) ∧
      joinPieces (.ok rest) pieces = .ok (seen chars) := by
  induction spelled with
  | nil => exact ⟨[], scanString_quote rest, rfl⟩
  | @plain c _ _ printable notQuote notBackslash _ ih =>
      obtain ⟨pieces, scans, joins⟩ := ih
      refine ⟨.char c :: pieces, ?_, ?_⟩
      · rw [seen_cons, List.cons_append, scanString_plain _ printable notQuote notBackslash, scans]
      · rw [joinPieces, joins]
        rfl
  | @escape c _ _ _ known _ ih =>
      obtain ⟨pieces, scans, joins⟩ := ih
      refine ⟨.char c :: pieces, ?_, ?_⟩
      · rw [seen_cons, seen_cons, List.cons_append, List.cons_append, scanString_escape _ known,
          scans]
      · rw [joinPieces, joins]
        rfl
  | @unit c _ _ _ isUnit _ ih =>
      obtain ⟨pieces, scans, joins⟩ := ih
      refine ⟨.unit c.toNat :: pieces, ?_, ?_⟩
      · rw [seen_append, List.append_assoc, scanString_unit _ isUnit, scans]
      · rw [joinPieces_unit, joins]
        rfl
  | @pair c _ _ _ _ beyond isHigh isLow _ ih =>
      obtain ⟨pieces, scans, joins⟩ := ih
      refine ⟨.unit (0xD800 + (c.toNat - 0x10000) / 0x400) ::
        .unit (0xDC00 + (c.toNat - 0x10000) % 0x400) :: pieces, ?_, ?_⟩
      · rw [seen_append, seen_append, List.append_assoc, List.append_assoc,
          scanString_unit _ isHigh, scanString_unit _ isLow, scans]
      · rw [joinPieces_pair _ beyond, joins]
        rfl

theorem gapless?_seen (chars : List Char) : gapless? (seen chars) = some chars := by
  induction chars with
  | nil => rfl
  | cons c chars ih => rw [seen_cons, gapless?, ih, Option.map_some]

/-- What stands between quotes is read as the string. -/
theorem SpellsChars.stringBody {value : String} {text : List Char}
    (spelled : SpellsChars value.toList text) (rest : Decoded) :
    Json.stringBody (seen text ++ some '"' :: rest) = .ok (value, rest) := by
  obtain ⟨pieces, scans, joins⟩ := spelled.scan rest
  simp only [Json.stringBody, scans, joins, gapless?_seen, String.ofList_toList]

theorem SpellsChars.skipString {chars text : List Char} (spelled : SpellsChars chars text)
    (rest : Decoded) : Json.skipString (seen text ++ some '"' :: rest) = .ok ((), rest) := by
  obtain ⟨pieces, scans, _⟩ := spelled.scan rest
  rw [Json.skipString, scans]
  rfl

/-! ## Numbers -/

/-- The value of a digit. -/
def digitValue (c : Char) : Nat :=
  c.toNat - 48

/-- No digit comes next. -/
def NoDigit (rest : Decoded) : Prop :=
  ∀ c more, rest = some c :: more → c.isDigit = false

/-- Nothing comes next with which a number could go on. -/
def Closes (rest : Decoded) : Prop :=
  ∀ c more, rest = some c :: more → c.isDigit = false ∧ c ≠ '.' ∧ c ≠ 'e' ∧ c ≠ 'E'

theorem Closes.noDigit {rest : Decoded} (closes : Closes rest) : NoDigit rest :=
  fun c more isFirst => (closes c more isFirst).1

theorem noDigit_cons {c : Char} (notDigit : c.isDigit = false) (rest : Decoded) :
    NoDigit (some c :: rest) := by
  intro other more isFirst
  obtain ⟨same, _⟩ := List.cons.inj isFirst
  rw [← Option.some.inj same]
  exact notDigit

theorem isDigit_eq (c : Char) : ('0' ≤ c && c ≤ '9') = c.isDigit :=
  rfl

theorem takeDigits_append {text : List Char} (digits : ∀ c ∈ text, c.isDigit = true)
    {rest : Decoded} (ends : NoDigit rest) :
    takeDigits (seen text ++ rest) = (text.map digitValue, rest) := by
  induction text with
  | nil =>
      match rest with
      | [] => rfl
      | none :: more => rfl
      | some c :: more =>
          have notDigit := ends c more rfl
          rw [seen_nil, List.nil_append, takeDigits, isDigit_eq, notDigit]
          rfl
  | cons c text ih =>
      have isDigit := digits c List.mem_cons_self
      rw [seen_cons, List.cons_append, takeDigits, isDigit_eq, isDigit, if_pos rfl,
        ih fun other member => digits other (List.mem_cons_of_mem c member)]
      rfl

theorem IsDigits.scan {text : List Char} (isDigits : IsDigits text) (atEnd : Fault)
    {rest : Decoded} (ends : NoDigit rest) :
    needDigits atEnd (seen text ++ rest) = .ok (text.map digitValue, rest) := by
  rw [needDigits, takeDigits_append isDigits.2 ends]
  cases text with
  | nil => exact absurd rfl isDigits.1
  | cons c text => rfl

/-- What begins with digits begins with nothing else. -/
theorem IsDigits.ne_cons {text : List Char} (isDigits : IsDigits text) {c : Char}
    (notDigit : c.isDigit = false) {rest more : Decoded} : seen text ++ rest ≠ some c :: more := by
  intro isFirst
  cases text with
  | nil => exact isDigits.1 rfl
  | cons first text =>
      obtain ⟨same, _⟩ := List.cons.inj isFirst
      rw [← Option.some.inj same, isDigits.2 first List.mem_cons_self] at notDigit
      cases notDigit

theorem IsDigits.scanExponent {sign text : List Char} (isDigits : IsDigits text)
    (isSign : sign = [] ∨ sign = ['+'] ∨ sign = ['-']) (atEnd : Fault) {rest : Decoded}
    (ends : NoDigit rest) :
    ∃ found, Json.scanExponent atEnd (seen (sign ++ text) ++ rest) = .ok (found, rest) := by
  have scans := isDigits.scan atEnd ends
  rcases isSign with rfl | rfl | rfl
  · refine ⟨(false, text.map digitValue), ?_⟩
    rw [List.nil_append, Json.scanExponent.eq_def]
    split
    · rename_i isFirst
      exact absurd isFirst (isDigits.ne_cons (by decide))
    · rename_i isFirst
      exact absurd isFirst (isDigits.ne_cons (by decide))
    · rw [scans]
      rfl
  · refine ⟨(false, text.map digitValue), ?_⟩
    rw [List.singleton_append, seen_cons, List.cons_append, Json.scanExponent, scans]
    rfl
  · refine ⟨(true, text.map digitValue), ?_⟩
    rw [List.singleton_append, seen_cons, List.cons_append, Json.scanExponent, scans]
    rfl

/-- Where a number ends, there is no exponent. -/
theorem scanOptionalExponent_of_closes (atEnd : Fault) (whole fraction : List Nat)
    {rest : Decoded} (closes : Closes rest) :
    scanOptionalExponent atEnd whole fraction rest = .ok (⟨whole, fraction, none⟩, rest) := by
  rw [scanOptionalExponent.eq_def]
  split
  · exact absurd rfl (closes _ _ rfl).2.2.1
  · exact absurd rfl (closes _ _ rfl).2.2.2
  · rfl

theorem IsExponent.scan {text : List Char} (isExponent : IsExponent text) (atEnd : Fault)
    (whole fraction : List Nat) {rest : Decoded} (closes : Closes rest) :
    ∃ written, scanOptionalExponent atEnd whole fraction (seen text ++ rest) =
      .ok (written, rest) := by
  cases isExponent with
  | absent =>
      exact ⟨⟨whole, fraction, none⟩, scanOptionalExponent_of_closes atEnd whole fraction closes⟩
  | @digits letter sign digits isLetter isSign isDigits =>
      obtain ⟨found, scans⟩ := isDigits.scanExponent isSign atEnd closes.noDigit
      refine ⟨⟨whole, fraction, some found⟩, ?_⟩
      rcases isLetter with rfl | rfl
      · rw [seen_cons, List.cons_append, scanOptionalExponent, scans]
        rfl
      · rw [seen_cons, List.cons_append, scanOptionalExponent, scans]
        rfl

/-- With an exponent, or behind the number, neither a digit nor a point comes next. -/
theorem IsExponent.head {text : List Char} (isExponent : IsExponent text) {rest : Decoded}
    (closes : Closes rest) (c : Char) (more : Decoded)
    (isFirst : seen text ++ rest = some c :: more) : c.isDigit = false ∧ c ≠ '.' := by
  cases isExponent with
  | absent =>
      obtain ⟨notDigit, notPoint, _⟩ := closes c more isFirst
      exact ⟨notDigit, notPoint⟩
  | digits isLetter isSign isDigits =>
      obtain ⟨same, _⟩ := List.cons.inj isFirst
      rw [← Option.some.inj same]
      rcases isLetter with rfl | rfl <;> decide

/-- A whole number of several digits does not begin with a zero. -/
theorem IsWhole.digits_ne {text : List Char} (isWhole : IsWhole text) (digit : Nat)
    (more : List Nat) : text.map digitValue ≠ 0 :: digit :: more := by
  obtain ⟨isDigits, noZeros⟩ := isWhole
  intro isZero
  cases text with
  | nil => cases isZero
  | cons first rest =>
      obtain ⟨isFirst, isRest⟩ := List.cons.inj isZero
      have code : first.toNat = '0'.toNat := by
        obtain ⟨least, _⟩ := Char.isDigit_iff_toNat.mp (isDigits.2 first List.mem_cons_self)
        exact Nat.le_antisymm (Nat.sub_eq_zero_iff_le.mp isFirst) least
      have alone := noZeros (by rw [List.head?_cons, Char.toNat_inj.mp code])
      rw [(List.cons.inj alone).2] at isRest
      cases isRest

/-- Where no point follows the whole part of a number, there may be an exponent. -/
theorem IsWhole.scan {text : List Char} (isWhole : IsWhole text) (atEnd : Fault)
    {rest : Decoded} (ends : NoDigit rest) (notPoint : ∀ more, rest ≠ some '.' :: more) :
    Json.scanNumber atEnd (seen text ++ rest) =
      scanOptionalExponent atEnd (text.map digitValue) [] rest := by
  have proper := isWhole.digits_ne
  rw [Json.scanNumber, isWhole.1.scan atEnd ends]
  generalize text.map digitValue = digits at proper
  split
  case h_1 isError => cases isError
  case h_2 isOk =>
    obtain ⟨rfl, _⟩ := Prod.mk.inj (Except.ok.inj isOk)
    exact absurd rfl (proper _ _)
  case h_3 isOk =>
    obtain ⟨_, rfl⟩ := Prod.mk.inj (Except.ok.inj isOk)
    exact absurd rfl (notPoint _)
  case h_4 isOk =>
    obtain ⟨rfl, rfl⟩ := Prod.mk.inj (Except.ok.inj isOk)
    rfl

/-- Behind a point there are the digits of a fraction, and then there may be an exponent. -/
theorem IsWhole.scanFraction {text fraction : List Char} (isWhole : IsWhole text)
    (isDigits : IsDigits fraction) (atEnd : Fault) {rest : Decoded} (ends : NoDigit rest) :
    Json.scanNumber atEnd (seen text ++ some '.' :: (seen fraction ++ rest)) =
      scanOptionalExponent atEnd (text.map digitValue) (fraction.map digitValue) rest := by
  have proper := isWhole.digits_ne
  rw [Json.scanNumber, isWhole.1.scan atEnd (noDigit_cons (by decide) _)]
  generalize text.map digitValue = digits at proper
  split
  case h_1 isError => cases isError
  case h_2 isOk =>
    obtain ⟨rfl, _⟩ := Prod.mk.inj (Except.ok.inj isOk)
    exact absurd rfl (proper _ _)
  case h_3 isOk =>
    obtain ⟨rfl, behind⟩ := Prod.mk.inj (Except.ok.inj isOk)
    obtain ⟨_, rfl⟩ := List.cons.inj behind
    simp only [isDigits.scan atEnd ends]
  case h_4 notPoint isOk =>
    obtain ⟨rfl, rfl⟩ := Prod.mk.inj (Except.ok.inj isOk)
    exact absurd rfl (notPoint _)

/-- A whole number is taken from the front, if no fraction or exponent follows. -/
theorem IsWhole.scanNumber {text : List Char} (isWhole : IsWhole text) (atEnd : Fault)
    {rest : Decoded} (closes : Closes rest) :
    Json.scanNumber atEnd (seen text ++ rest) = .ok (⟨text.map digitValue, [], none⟩, rest) := by
  rw [isWhole.scan atEnd closes.noDigit fun more isFirst => (closes '.' more isFirst).2.1 rfl]
  exact scanOptionalExponent_of_closes atEnd _ [] closes

/-- Every number without a sign is taken from the front. -/
theorem IsUnsigned.scanNumber {text : List Char} (isUnsigned : IsUnsigned text) (atEnd : Fault)
    {rest : Decoded} (closes : Closes rest) :
    ∃ written, Json.scanNumber atEnd (seen text ++ rest) = .ok (written, rest) := by
  cases isUnsigned with
  | @parts whole fraction exponent isWhole isFraction isExponent =>
      have head := isExponent.head closes
      have ends : NoDigit (seen exponent ++ rest) := fun c more isFirst => (head c more isFirst).1
      rw [seen_append, List.append_assoc, seen_append, List.append_assoc]
      cases isFraction with
      | absent =>
          rw [seen_nil, List.nil_append,
            isWhole.scan atEnd ends fun more isFirst => (head '.' more isFirst).2 rfl]
          exact isExponent.scan atEnd _ _ closes
      | digits isDigits =>
          rw [seen_cons, List.cons_append, isWhole.scanFraction isDigits atEnd ends]
          exact isExponent.scan atEnd _ _ closes

end WebhookSync.Json
