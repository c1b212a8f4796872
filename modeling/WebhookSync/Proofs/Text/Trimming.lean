import Mathlib.Data.List.DropRight
import WebhookSync.Text.Blank

/-!
# Trimmed texts

What is left of a text between the blanks at its ends neither begins nor ends with a blank, and no
other text between blanks does (`trim_eq_iff`).  So texts that differ only in blanks at their ends
are trimmed to the same text.
-/

namespace WebhookSync.Text

/-! ## Ends of lists -/

section DropEnd

variable {α : Type} {accept : α → Bool}

/-- What is accepted at the end is dropped, however much it is. -/
theorem dropEndWhile_append {dropped : List α} (accepted : ∀ x ∈ dropped, accept x = true)
    (xs : List α) : dropEndWhile accept (xs ++ dropped) = dropEndWhile accept xs := by
  have accepted' : ∀ x ∈ dropped.reverse, accept x = true :=
    fun x member => accepted x (List.mem_reverse.mp member)
  rw [dropEndWhile, List.reverse_append, List.dropWhile_append_of_pos accepted', dropEndWhile]

/-- What is left does not end with something that is accepted. -/
theorem getLast?_dropEndWhile (xs : List α) :
    ∀ x ∈ (dropEndWhile accept xs).getLast?, accept x = false := by
  intro x isLast
  rw [dropEndWhile, List.getLast?_reverse] at isLast
  have first := List.head?_dropWhile_not accept xs.reverse
  rwa [isLast] at first

theorem dropEndWhile_eq_self {xs : List α} (last : ∀ x ∈ xs.getLast?, accept x = false) :
    dropEndWhile accept xs = xs := by
  refine List.rdropWhile_eq_self_iff.mpr fun nonempty => ?_
  rw [last _ (List.getLast?_eq_some_getLast nonempty)]
  exact Bool.false_ne_true

end DropEnd

/-! ## Trimming -/

/-- A text of blanks only. -/
def AllBlank (text : String) : Prop :=
  ∀ c ∈ text.toList, isBlank c = true

instance (text : String) : Decidable (AllBlank text) :=
  decidable_of_iff (text.toList.all isBlank = true) List.all_eq_true

/-- A text that neither begins nor ends with a blank. -/
structure IsBare (text : String) : Prop where
  first : ∀ c ∈ text.toList.head?, isBlank c = false
  last : ∀ c ∈ text.toList.getLast?, isBlank c = false

theorem isBare_iff {text : String} :
    IsBare text ↔ text.toList.head?.any isBlank = false ∧
      text.toList.getLast?.any isBlank = false := by
  rw [Option.any_eq_false, Option.any_eq_false]
  exact ⟨fun bare => ⟨bare.first, bare.last⟩, fun ends => ⟨ends.1, ends.2⟩⟩

instance (text : String) : Decidable (IsBare text) :=
  decidable_of_iff _ isBare_iff.symm

theorem AllBlank.append {first second : String} (firstBlank : AllBlank first)
    (secondBlank : AllBlank second) : AllBlank (first ++ second) := by
  intro c member
  rw [String.toList_append, List.mem_append] at member
  exact member.elim (firstBlank c) (secondBlank c)

theorem not_allBlank_iff {text : String} :
    ¬ AllBlank text ↔ ∃ c ∈ text.toList, isBlank c = false := by
  simp [AllBlank]

/-- The trimmed text lies between blanks. -/
theorem exists_blanks_around_trim (text : String) :
    ∃ before after, AllBlank before ∧ AllBlank after ∧ text = before ++ trim text ++ after := by
  obtain ⟨after, isRest, blank⟩ :=
    exists_dropEndWhile_append isBlank (text.toList.dropWhile isBlank)
  refine ⟨.ofList (text.toList.takeWhile isBlank), .ofList after, ?_, ?_, ?_⟩
  · intro c member
    rw [String.toList_ofList] at member
    exact List.all_eq_true.mp List.all_takeWhile c member
  · intro c member
    rw [String.toList_ofList] at member
    exact blank c member
  · rw [trim, trimChars, ← String.ofList_append, ← String.ofList_append, List.append_assoc,
      ← isRest, List.takeWhile_append_dropWhile, String.ofList_toList]

theorem isBare_trim (text : String) : IsBare (trim text) := by
  constructor
  · intro c isFirst
    obtain ⟨dropped, isRest, _⟩ :=
      exists_dropEndWhile_append isBlank (text.toList.dropWhile isBlank)
    rw [trim, String.toList_ofList, trimChars] at isFirst
    have stillFirst := List.mem_head?_append_of_mem_head? (t := dropped) isFirst
    rw [← isRest] at stillFirst
    have first := List.head?_dropWhile_not isBlank text.toList
    rwa [stillFirst] at first
  · intro c isLast
    rw [trim, String.toList_ofList] at isLast
    exact getLast?_dropEndWhile _ c isLast

/-- Nothing is left of blanks. -/
theorem trim_of_allBlank {text : String} (blank : AllBlank text) : trim text = "" := by
  rw [trim, trimChars, List.dropWhile_eq_nil_iff.mpr blank, dropEndWhile_nil]

/-- Blanks around a text that neither begins nor ends with one are trimmed off. -/
theorem trim_blanks_around {before text after : String} (blankBefore : AllBlank before)
    (bare : IsBare text) (blankAfter : AllBlank after) :
    trim (before ++ text ++ after) = text := by
  by_cases empty : text = ""
  · subst empty
    rw [String.append_empty]
    exact trim_of_allBlank (blankBefore.append blankAfter)
  · have nonempty : text.toList ≠ [] := fun isNil => empty (String.toList_eq_nil_iff.mp isNil)
    have untouched : (text.toList ++ after.toList).dropWhile isBlank =
        text.toList ++ after.toList := by
      obtain ⟨c, rest, chars⟩ := List.exists_cons_of_ne_nil nonempty
      have first : isBlank c = false := bare.first c (by rw [chars]; rfl)
      rw [chars, List.cons_append, List.dropWhile_cons_of_neg (by rw [first]; decide)]
    rw [trim, trimChars, String.toList_append, String.toList_append, List.append_assoc,
      List.dropWhile_append_of_pos blankBefore, untouched, dropEndWhile_append blankAfter,
      dropEndWhile_eq_self bare.last, String.ofList_toList]

/-- The trimmed text is the one text between blanks that neither begins nor ends with a blank. -/
theorem trim_eq_iff {text trimmed : String} :
    trim text = trimmed ↔ IsBare trimmed ∧
      ∃ before after, AllBlank before ∧ AllBlank after ∧ text = before ++ trimmed ++ after := by
  constructor
  · rintro rfl
    exact ⟨isBare_trim text, exists_blanks_around_trim text⟩
  · rintro ⟨bare, before, after, blankBefore, blankAfter, rfl⟩
    exact trim_blanks_around blankBefore bare blankAfter

/-- Without blanks at its ends a text stays as it is. -/
theorem IsBare.trim_eq {text : String} (bare : IsBare text) : trim text = text := by
  have nothing : AllBlank "" := List.forall_mem_nil _
  have isBetween : text = "" ++ text ++ "" := by rw [String.empty_append, String.append_empty]
  exact trim_eq_iff.mpr ⟨bare, "", "", nothing, nothing, isBetween⟩

/-- Only texts of blanks are trimmed away. -/
theorem trim_eq_empty_iff {text : String} : trim text = "" ↔ AllBlank text := by
  constructor
  · intro trimmedAway
    obtain ⟨before, after, blankBefore, blankAfter, isText⟩ := exists_blanks_around_trim text
    rw [isText, trimmedAway, String.append_empty]
    exact blankBefore.append blankAfter
  · exact trim_of_allBlank

end WebhookSync.Text
