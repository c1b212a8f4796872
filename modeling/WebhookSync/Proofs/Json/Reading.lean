import WebhookSync.Json.Read
import WebhookSync.Proofs.Json.Nesting
import WebhookSync.Proofs.Json.Printing

/-!
# Reading what is well written

A reader of a type reads each way of writing a value of the type: a string, a truth value, a list,
an integer within the bounds of its type, and a value that may be null.  What is read wherever it
stands is read from a text that holds nothing else (`SpellsWhole.whole`).
-/

namespace WebhookSync.Json

open Text (Decoded)

/-! ## Whole texts -/

/-- A value that is read wherever it stands is read from a text that holds nothing else. -/
theorem SpellsWhole.whole {α : Type} {read : Reader α} {document : Document} {text : String}
    {value : α} (spelled : SpellsWhole document text)
    (reads : ∀ text, Spells document text → Reads read text value) :
    read.whole (.ofString text) = .ok value := by
  obtain ⟨before, middle, after, isText, blankBefore, blankAfter, spelled⟩ := spelled
  have isAhead : skipBlank (Decoded.ofString text) = seen middle ++ seen after := by
    rw [Decoded.ofString, isText, ← seen, List.append_assoc, seen_append,
      skipBlank_append blankBefore, seen_append, spelled.starts.skipBlank]
  have ends : skipBlank (seen after) = [] := by
    rw [← List.append_nil (seen after), skipBlank_append blankAfter]
    rfl
  rw [Reader.whole, reads middle spelled _ _ isAhead (closes_of_isBlank blankAfter)]
  simp only [bind, Except.bind, ends]
  rfl

/-! ## Single values -/

theorem reads_string {value : String} {text : List Char} (spelled : Spells (.string value) text) :
    Reads Reader.string text value := by
  intro ahead rest isAhead _
  cases spelled with
  | string spelled =>
      rw [Reader.string, isAhead, seen_cons, List.cons_append, seen_append, List.append_assoc]
      exact spelled.stringBody rest

theorem reads_bool {value : Bool} {text : List Char} (spelled : Spells (.bool value) text) :
    Reads Reader.bool text value := by
  intro ahead rest isAhead _
  rw [Reader.bool, isAhead]
  cases spelled with
  | yes =>
      exact congrArg (Except.map fun found => (true, found.2)) (word_append ['r', 'u', 'e'] rest)
  | no =>
      exact congrArg (Except.map fun found => (false, found.2))
        (word_append ['a', 'l', 's', 'e'] rest)

theorem reads_none {α : Type} (value : Reader α) :
    Reads (Reader.optional value) ['n', 'u', 'l', 'l'] none := by
  intro ahead rest isAhead _
  rw [Reader.optional, isAhead]
  exact congrArg (Except.map fun found => (none, found.2)) (word_append ['u', 'l', 'l'] rest)

/-- An optional value that is there is read like the value. -/
theorem Reads.optional {α : Type} {read : Reader α} {text : List Char} {value : α}
    (reads : Reads read text value) (starts : Starts text) (notNull : text.head? ≠ some 'n') :
    Reads (Reader.optional read) text (some value) := by
  intro ahead rest isAhead closes
  have isRead : read (seen text ++ rest) = .ok (value, rest) :=
    reads _ rest (starts.skipBlank rest) closes
  obtain ⟨c, more, rfl, _⟩ := starts
  rw [Reader.optional, isAhead]
  split
  · rename_i isNull
    obtain ⟨same, _⟩ := List.cons.inj isNull
    exact absurd same notNull
  · rw [isRead]
    rfl

theorem reads_list {α β : Type} {spells : α → List Char → Prop} {item : Reader β}
    {parts : List α} {values : List β} {text : List Char}
    (series : Series spells ']' parts text)
    (reads : List.Forall₂ (fun part value => ∀ text, spells part text → Reads item text value)
      parts values)
    (starts : ∀ part ∈ parts, ∀ text, spells part text → Starts text) :
    Reads (Reader.list item) ('[' :: text) values := by
  intro ahead rest isAhead _
  have readsAll : ReadsAll spells item text.length parts values :=
    reads.imp fun _ _ readsPart text spelled _ => readsPart text spelled
  rw [Reader.list, isAhead]
  exact series.items readsAll starts (Nat.le_refl _) rest

/-- A list of strings is read from an array of them. -/
theorem reads_strings {values : List String} {text : List Char}
    (spelled : Spells (.array (values.map .string)) text) :
    Reads (Reader.list Reader.string) text values := by
  cases spelled with
  | array series =>
      refine reads_list series ?_ fun _ _ _ spelled => spelled.starts
      rw [List.forall₂_map_left_iff, List.forall₂_same]
      exact fun value _ text spelled => reads_string spelled

/-! ## Integers -/

theorem le_ofDigitChars (significand : Nat) (text : List Char) :
    significand ≤ Nat.ofDigitChars 10 text significand := by
  induction text generalizing significand with
  | nil => exact Nat.le_refl _
  | cons c text ih => exact Nat.le_trans (by omega) (ih (10 * significand + (c.toNat - 48)))

/-- Digits are absorbed whole as long as their number fits. -/
theorem absorb_map_digitValue {significand : Nat} {text : List Char}
    (fits : Nat.ofDigitChars 10 text significand < UInt64.size) :
    absorb significand (text.map digitValue) = (Nat.ofDigitChars 10 text significand, 0) := by
  induction text generalizing significand with
  | nil => rfl
  | cons c text ih =>
      have fitsOn : Nat.ofDigitChars 10 text (significand * 10 + digitValue c) < UInt64.size := by
        rw [Nat.mul_comm]
        exact fits
      have fitsFirst := Nat.lt_of_le_of_lt (le_ofDigitChars _ text) fitsOn
      rw [List.map_cons, absorb, if_pos fitsFirst, ih fitsOn, Nat.mul_comm]
      rfl

/-- The value of a written natural number, with a minus sign or without one. -/
theorem value_toDigits {n : Nat} (fits : n < UInt64.size) (negative : Bool) :
    NumberText.value ⟨(Nat.toDigits 10 n).map digitValue, [], none⟩ negative =
      if !negative then .ok (.integer n)
      else if 0 < n && n ≤ Nat.pow 2 63 then .ok (.integer (-Int.ofNat n))
      else floatOf negative n 0 := by
  have digits : Nat.ofDigitChars 10 (Nat.toDigits 10 n) 0 = n :=
    Nat.ofDigitChars_toDigits (by decide) (by decide)
  have whole : absorb 0 ((Nat.toDigits 10 n).map digitValue) = (n, 0) := by
    rw [absorb_map_digitValue (by rwa [digits]), digits]
  simp only [NumberText.value, whole]
  rfl

/-- A written integer is taken from the front. -/
theorem number_writeInt {n : Int} (least : -0x8000000000000000 ≤ n)
    (greatest : n < 0x10000000000000000) {rest : Decoded} (closes : Closes rest) :
    number (seen (writeInt n) ++ rest) = .ok (.integer n, rest) := by
  have fits : n.natAbs < UInt64.size := by
    change n.natAbs < 0x10000000000000000
    omega
  have scans := (isWhole_toDigits n.natAbs).scanNumber .truncated closes
  unfold writeInt
  split
  · rename_i negative
    have inRange : (0 < n.natAbs && n.natAbs ≤ Nat.pow 2 63) = true := by
      rw [Bool.and_eq_true, decide_eq_true_eq, decide_eq_true_eq]
      change 0 < n.natAbs ∧ n.natAbs ≤ 0x8000000000000000
      omega
    have sameInt : -Int.ofNat n.natAbs = n := by
      rw [Int.ofNat_eq_natCast]
      omega
    rw [seen_cons, List.cons_append, number]
    simp only [scans, bind, Except.bind, value_toDigits fits, inRange, sameInt]
    rfl
  · rename_i positive
    have sameInt : (n.natAbs : Int) = n := by omega
    obtain ⟨c, more, isText, isDigit⟩ := starts_of_isUnsigned (isUnsigned_toDigits n.natAbs)
    rw [number.eq_def]
    split
    · rename_i isMinus
      rw [isText] at isMinus
      obtain ⟨same, _⟩ := List.cons.inj isMinus
      rw [Option.some.inj same] at isDigit
      cases isDigit
    · simp only [scans, bind, Except.bind, value_toDigits fits, sameInt]
      rfl

/-- A written integer begins with a digit or a minus sign. -/
theorem starts_writeInt (n : Int) :
    ∃ c more, writeInt n = c :: more ∧ (c == '-' || '0' ≤ c && c ≤ '9') = true := by
  obtain ⟨c, more, isText, isDigit⟩ := starts_of_isUnsigned (isUnsigned_toDigits n.natAbs)
  unfold writeInt
  split
  · exact ⟨'-', _, rfl, rfl⟩
  · exact ⟨c, more, isText, by rw [isDigit_eq, isDigit, Bool.or_true]⟩

/-- An integer within the bounds is read. -/
theorem integer_writeInt {expected : String} {least greatest n : Int} (above : least ≤ n)
    (below : n ≤ greatest) (fitsBelow : -0x8000000000000000 ≤ n)
    (fitsAbove : n < 0x10000000000000000) :
    Reads (Reader.integer expected least greatest) (writeInt n) n := by
  intro ahead rest isAhead closes
  have scans := number_writeInt fitsBelow fitsAbove closes
  have inRange : (least ≤ n && n ≤ greatest) = true := by
    rw [Bool.and_eq_true, decide_eq_true_eq, decide_eq_true_eq]
    exact ⟨above, below⟩
  obtain ⟨c, more, isText, isFirst⟩ := starts_writeInt n
  rw [isText, seen_cons, List.cons_append] at isAhead scans
  rw [Reader.integer, isAhead]
  simp only [isFirst, if_true, scans, inRange]

theorem reads_int64 (id : Int64) : Reads Reader.int64 (writeInt id.toInt) id := by
  intro ahead rest isAhead closes
  have above := Int64.minValue_le_toInt id
  have below := Int64.toInt_le id
  have fitsBelow : -0x8000000000000000 ≤ id.toInt := id.le_toInt
  have fitsAbove : id.toInt < 0x8000000000000000 := id.toInt_lt
  rw [Reader.int64, integer_writeInt above below fitsBelow (by omega) ahead rest isAhead closes]
  simp [Except.map]

theorem reads_uint32 (n : UInt32) : Reads Reader.uint32 (writeInt n.toNat) n := by
  intro ahead rest isAhead closes
  have below := n.toNat_lt
  rw [Reader.uint32, integer_writeInt (by omega) (by simp; omega) (by omega) (by omega) ahead rest
    isAhead closes]
  simp [Except.map]

end WebhookSync.Json
