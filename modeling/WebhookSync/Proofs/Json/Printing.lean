import WebhookSync.Proofs.Json.Grammar

/-!
# Printed values are well written

A structured value is, of all its written forms, printed in two: compact, or on lines with indents.
That these are among them (`spells_compactChars`, `spells_prettyChars`) says that strings are
escaped properly, that numbers have no superfluous zeros, and that brackets and commas are where
they belong.
-/

namespace WebhookSync.Json

/-! ## Numbers -/

theorem isDigits_toDigits (n : Nat) : IsDigits (Nat.toDigits 10 n) :=
  ⟨Nat.toDigits_ne_nil, fun _ member =>
    Nat.isDigit_of_mem_toDigits (by decide) (by decide) member⟩

theorem isWhole_toDigits (n : Nat) : IsWhole (Nat.toDigits 10 n) := by
  refine ⟨isDigits_toDigits n, ?_⟩
  induction n using Nat.strongRecOn with
  | ind n ih =>
      rw [Nat.toDigits_eq_if (by decide)]
      split
      · intro isZero
        rw [List.head?_cons] at isZero
        rw [Option.some.inj isZero]
      · rename_i big
        intro isZero
        have less : n / 10 < n := Nat.div_lt_self (by omega) (by decide)
        have alone : Nat.toDigits 10 (n / 10) = ['0'] := by
          refine ih (n / 10) less ?_
          rw [List.head?_append] at isZero
          cases digits : Nat.toDigits 10 (n / 10) with
          | nil => exact absurd digits Nat.toDigits_ne_nil
          | cons c more => rwa [digits] at isZero
        have value : Nat.ofDigitChars 10 (Nat.toDigits 10 (n / 10)) 0 = n / 10 :=
          Nat.ofDigitChars_toDigits (by decide) (by decide)
        rw [alone] at value
        change 0 = n / 10 at value
        omega

theorem isUnsigned_toDigits (n : Nat) : IsUnsigned (Nat.toDigits 10 n) := by
  have isUnsigned := IsUnsigned.parts (isWhole_toDigits n) .absent .absent
  rwa [List.append_nil, List.append_nil] at isUnsigned

theorem isNumber_writeInt (n : Int) : IsNumber (writeInt n) := by
  unfold writeInt
  split
  · exact .negative (isUnsigned_toDigits _)
  · exact .positive (isUnsigned_toDigits _)

/-! ## Strings -/

theorem mem_escapes_of_shortEscape? {c letter : Char} (short : shortEscape? c = some letter) :
    (letter, c) ∈ escapes := by
  unfold shortEscape? at short
  split at short
  all_goals
    first
    | obtain rfl := Option.some.inj short
      decide
    | cases short

theorem isHexDigit_hexDigit : ∀ value < 16, IsHexDigit value (Text.hexDigit value) := by
  unfold IsHexDigit
  decide

theorem spellsChars_escapeChar (c : Char) {chars text : List Char}
    (rest : SpellsChars chars text) : SpellsChars (c :: chars) (escapeChar c ++ text) := by
  unfold escapeChar
  split
  · rename_i short
    exact .escape (mem_escapes_of_shortEscape? short) rest
  · rename_i notShort
    split
    · rename_i control
      have isUnit : SpellsUnit c.toNat
          ['\\', 'u', '0', '0', Text.hexDigit (c.toNat / 16), Text.hexDigit (c.toNat % 16)] := by
        have zero : IsHexDigit 0 '0' := rfl
        have spelled := SpellsUnit.digits zero zero
          (isHexDigit_hexDigit (c.toNat / 16) (by omega))
          (isHexDigit_hexDigit (c.toNat % 16) (by omega))
        have value : ((0 * 16 + 0) * 16 + c.toNat / 16) * 16 + c.toNat % 16 = c.toNat := by omega
        rwa [value] at spelled
      exact .unit isUnit rest
    · rename_i printable
      refine .plain ?_ ?_ ?_ rest
      · exact Char.le_def.mpr (UInt32.le_iff_toNat_le.mpr (Nat.not_lt.mp printable))
      · rintro rfl
        cases notShort
      · rintro rfl
        cases notShort

theorem spellsChars_escaped (chars : List Char) :
    SpellsChars chars (chars.flatMap escapeChar) := by
  induction chars with
  | nil => exact .nil
  | cons c chars ih =>
      rw [List.flatMap_cons]
      exact spellsChars_escapeChar c ih

/-! ## Values -/

mutual

/-- What a printed value stands for. -/
def document : Json → Document
  | .null => .null
  | .bool value => .bool value
  | .integer n => .number (writeInt n)
  | .string s => .string s
  | .array items => .array (documentItems items)
  | .object members => .object (documentMembers members)

/-- What printed items stand for. -/
def documentItems : List Json → List Document
  | [] => []
  | item :: rest => document item :: documentItems rest

/-- What printed members stand for. -/
def documentMembers : List (String × Json) → List (String × Document)
  | [] => []
  | (key, value) :: rest => (key, document value) :: documentMembers rest

end

theorem documentItems_eq_map (items : List Json) : documentItems items = items.map document := by
  induction items with
  | nil => rfl
  | cons item rest ih => rw [documentItems, ih, List.map_cons]

/-- A key and a value with a colon between them, and blanks at most behind the colon. -/
theorem member_quote {α : Type} {spells : α → List Char → Prop} (key : String) {value : α}
    {after text : List Char} (blankAfter : IsBlank after) (spelled : spells value text) :
    Member spells (key, value) (quote key ++ ':' :: (after ++ text)) := by
  have pair : Member spells (key, value) _ :=
    .pair (spellsChars_escaped key.toList) (List.forall_mem_nil _) blankAfter spelled
  simpa [quote] using pair

section Series

variable {α : Type} {spells : α → List Char → Prop} {close : Char}

/-- The last part of a series without blanks. -/
theorem SeriesFrom.lastBare {part : α} {text : List Char} (spelled : spells part text) :
    SeriesFrom spells close [part] (text ++ [close]) :=
  .last (List.forall_mem_nil _) spelled (List.forall_mem_nil _)

/-- A part of a series without blanks, and more of them behind a comma. -/
theorem SeriesFrom.nextBare {part : α} {parts : List α} {text more : List Char}
    (spelled : spells part text) (onward : SeriesFrom spells close parts more) :
    SeriesFrom spells close (part :: parts) (text ++ ',' :: more) :=
  .next (List.forall_mem_nil _) spelled (List.forall_mem_nil _) onward

end Series

mutual

/-- A printed value stands for the value. -/
theorem spells_compactChars : (value : Json) → Spells value.document (compactChars value)
  | .null => .null
  | .bool true => .yes
  | .bool false => .no
  | .integer n => .number (isNumber_writeInt n)
  | .string s => .string (spellsChars_escaped s.toList)
  | .array items => by
      by_cases isEmpty : items = []
      · rw [isEmpty]
        exact .array (.none (List.forall_mem_nil _))
      · exact .array (.some (series_compactItems items isEmpty))
  | .object members => by
      by_cases isEmpty : members = []
      · rw [isEmpty]
        exact .object (.none (List.forall_mem_nil _))
      · exact .object (.some (series_compactMembers members isEmpty))

theorem series_compactItems : (items : List Json) → items ≠ [] →
    SeriesFrom Spells ']' (documentItems items) (compactItems items ++ [']'])
  | [], nonempty => absurd rfl nonempty
  | [item], _ => .lastBare (spells_compactChars item)
  | item :: next :: rest, _ => by
      have series := SeriesFrom.nextBare (spells_compactChars item)
        (series_compactItems (next :: rest) (List.cons_ne_nil _ _))
      simpa [compactItems, documentItems] using series

theorem series_compactMembers : (members : List (String × Json)) → members ≠ [] →
    SeriesFrom (Member Spells) '}' (documentMembers members) (compactMembers members ++ ['}'])
  | [], nonempty => absurd rfl nonempty
  | [(key, value)], _ =>
      .lastBare (member_quote key (List.forall_mem_nil _) (spells_compactChars value))
  | (key, value) :: next :: rest, _ => by
      have series := SeriesFrom.nextBare
        (member_quote key (List.forall_mem_nil _) (spells_compactChars value))
        (series_compactMembers (next :: rest) (List.cons_ne_nil _ _))
      simpa [compactMembers, documentMembers] using series

end

/-- What is printed stands for the value. -/
theorem spellsWhole_compact (value : Json) : SpellsWhole value.document value.compact := by
  refine ⟨[], compactChars value, [], ?_, List.forall_mem_nil _, List.forall_mem_nil _,
    spells_compactChars value⟩
  rw [compact, String.toList_ofList, List.nil_append, List.append_nil]

/-! ## The indented layout -/

theorem isBlank_newLine (level : Nat) : IsBlank (newLine level) := by
  intro c member
  rcases List.mem_cons.mp member with rfl | isIndent
  · decide
  · rw [List.eq_of_mem_replicate isIndent]
    decide

theorem isBlank_space : IsBlank [' '] :=
  List.forall_mem_singleton.mpr (by decide)

mutual

/-- A value that is printed with indents stands for the value, at whatever level. -/
theorem spells_prettyChars (level : Nat) :
    (value : Json) → Spells value.document (prettyChars level value)
  | .null => .null
  | .bool true => .yes
  | .bool false => .no
  | .integer n => .number (isNumber_writeInt n)
  | .string s => .string (spellsChars_escaped s.toList)
  | .array [] => .array (.none (List.forall_mem_nil _))
  | .array (item :: rest) => by
      have series := series_prettyItems (level + 1) level (item :: rest) (List.cons_ne_nil _ _)
      simpa [prettyChars, document] using Spells.array (.some series)
  | .object [] => .object (.none (List.forall_mem_nil _))
  | .object (member :: rest) => by
      have series := series_prettyMembers (level + 1) level (member :: rest) (List.cons_ne_nil _ _)
      simpa [prettyChars, document] using Spells.object (.some series)

theorem series_prettyItems (level outer : Nat) : (items : List Json) → items ≠ [] →
    SeriesFrom Spells ']' (documentItems items)
      (newLine level ++ (prettyItems level items ++ (newLine outer ++ [']'])))
  | [], nonempty => absurd rfl nonempty
  | [item], _ => .last (isBlank_newLine level) (spells_prettyChars level item)
      (isBlank_newLine outer)
  | item :: next :: rest, _ => by
      have series := SeriesFrom.next (isBlank_newLine level) (spells_prettyChars level item)
        (List.forall_mem_nil _)
        (series_prettyItems level outer (next :: rest) (List.cons_ne_nil _ _))
      simpa [prettyItems, documentItems] using series

theorem series_prettyMembers (level outer : Nat) : (members : List (String × Json)) →
    members ≠ [] →
    SeriesFrom (Member Spells) '}' (documentMembers members)
      (newLine level ++ (prettyMembers level members ++ (newLine outer ++ ['}'])))
  | [], nonempty => absurd rfl nonempty
  | [(key, value)], _ => by
      have member := member_quote key isBlank_space (spells_prettyChars level value)
      exact .last (isBlank_newLine level) member (isBlank_newLine outer)
  | (key, value) :: next :: rest, _ => by
      have member := member_quote key isBlank_space (spells_prettyChars level value)
      have series := SeriesFrom.next (isBlank_newLine level) member (List.forall_mem_nil _)
        (series_prettyMembers level outer (next :: rest) (List.cons_ne_nil _ _))
      simpa [prettyMembers, documentMembers] using series

end

/-- What is printed with indents stands for the value. -/
theorem spellsWhole_pretty (value : Json) : SpellsWhole value.document value.pretty := by
  refine ⟨[], prettyChars 0 value, [], ?_, List.forall_mem_nil _, List.forall_mem_nil _,
    spells_prettyChars 0 value⟩
  rw [pretty, String.toList_ofList, List.nil_append, List.append_nil]

end WebhookSync.Json
