import WebhookSync.Text.Lowercase

/-!
# Lower case

Small letters stay as they are, so a text in lower case is its own lower case
(`lowercase_lowercase`).
-/

namespace WebhookSync.Text

/-- A character that is its own small form. -/
def IsSmall (c : Char) : Prop :=
  lowerChars c = [c]

instance (c : Char) : Decidable (IsSmall c) :=
  inferInstanceAs (Decidable (lowerChars c = [c]))

/-! ## Small letters -/

theorem isSmall_of_capitalRanges {range : (Nat × Nat) × Nat} (isRange : range ∈ capitalRanges)
    {n : Nat} (above : range.1.1 ≤ n) (below : n ≤ range.1.2) :
    IsSmall (Char.ofNat (n + range.2)) := by
  have all : ∀ range ∈ capitalRanges, ∀ m < range.1.2 + 1 - range.1.1,
      IsSmall (Char.ofNat (range.1.1 + m + range.2)) := by
    decide +kernel
  have isSmall := all range isRange (n - range.1.1) (by omega)
  rwa [Nat.add_sub_cancel' above] at isSmall

/-- Behind a capital letter of such a range stands a small letter. -/
theorem isSmall_of_pairedRanges {ranges : List (Nat × Nat)} {parity n : Nat}
    (all : ∀ range ∈ ranges, ∀ m < range.2 + 1 - range.1, (range.1 + m) % 2 = parity →
      IsSmall (Char.ofNat (range.1 + m + 1)))
    (inside : inRanges ranges n = true) (hasParity : n % 2 = parity) :
    IsSmall (Char.ofNat (n + 1)) := by
  obtain ⟨range, isRange, bounds⟩ := List.any_eq_true.mp inside
  rw [Bool.and_eq_true, decide_eq_true_iff, decide_eq_true_iff] at bounds
  have isSmall := all range isRange (n - range.1) (by omega)
  rw [Nat.add_sub_cancel' bounds.1] at isSmall
  exact isSmall hasParity

/-- The small form consists of small letters. -/
theorem isSmall_of_mem_lowerChars {c d : Char} (member : d ∈ lowerChars c) : IsSmall d := by
  have single {form : List Char} (isForm : form = lowerChars c) (small : ∀ c ∈ form, IsSmall c) :
      IsSmall d := by
    subst isForm
    exact small d member
  generalize isForm : lowerChars c = form at single
  have cases := isForm
  unfold lowerChars at cases
  dsimp only at cases
  -- Four letters have a form of their own; the others are found in ranges, or stay as they are.
  split at cases
  · exact single cases (List.forall_mem_cons.mpr
      ⟨by decide, List.forall_mem_singleton.mpr (by decide)⟩)
  split at cases
  · exact single cases (List.forall_mem_singleton.mpr (by decide))
  split at cases
  · exact single cases (List.forall_mem_singleton.mpr (by decide))
  split at cases
  · exact single cases (List.forall_mem_singleton.mpr (by decide))
  split at cases
  · rename_i range found
    have bounds := List.find?_some found
    rw [Bool.and_eq_true, decide_eq_true_iff, decide_eq_true_iff] at bounds
    exact single cases (List.forall_mem_singleton.mpr
      (isSmall_of_capitalRanges (List.mem_of_find?_eq_some found) bounds.1 bounds.2))
  split at cases
  · rename_i paired
    rw [Bool.and_eq_true, beq_iff_eq] at paired
    exact single cases (List.forall_mem_singleton.mpr
      (isSmall_of_pairedRanges (by decide +kernel) paired.1 paired.2))
  split at cases
  · rename_i paired
    rw [Bool.and_eq_true, beq_iff_eq] at paired
    exact single cases (List.forall_mem_singleton.mpr
      (isSmall_of_pairedRanges (by decide +kernel) paired.1 paired.2))
  · exact single cases (List.forall_mem_singleton.mpr (isForm.trans cases.symm))

/-! ## Texts -/

theorem lowercase_append (first second : String) :
    lowercase (first ++ second) = lowercase first ++ lowercase second := by
  simp [lowercase]

/-- A text of small letters is its own lower case. -/
theorem lowercase_eq_self {text : String} (small : ∀ c ∈ text.toList, IsSmall c) :
    lowercase text = text := by
  have same : text.toList.flatMap lowerChars = text.toList := by
    generalize text.toList = chars at small
    induction chars with
    | nil => rfl
    | cons c rest ih =>
        obtain ⟨isSmall, others⟩ := List.forall_mem_cons.mp small
        rw [List.flatMap_cons, ih others, isSmall]
        rfl
  rw [lowercase, same, String.ofList_toList]

@[simp]
theorem lowercase_lowercase (text : String) : lowercase (lowercase text) = lowercase text := by
  refine lowercase_eq_self fun d member => ?_
  rw [lowercase, String.toList_ofList, List.mem_flatMap] at member
  obtain ⟨c, _, member⟩ := member
  exact isSmall_of_mem_lowerChars member

end WebhookSync.Text
