/-!
# Blank characters

The blank characters are those with the Unicode property `White_Space`.  Names and addresses that
people type are cleaned of blanks at both ends before they are used, never inside.
-/

namespace WebhookSync.Text

/-- Closed ranges of the code points with the property `White_Space`, ascending and apart. -/
def blankRanges : List (Nat × Nat) :=
  [(0x09, 0x0D), (0x20, 0x20), (0x85, 0x85), (0xA0, 0xA0), (0x1680, 0x1680), (0x2000, 0x200A),
   (0x2028, 0x2029), (0x202F, 0x202F), (0x205F, 0x205F), (0x3000, 0x3000)]

/-- Whether a number lies in one of the closed ranges. -/
def inRanges (ranges : List (Nat × Nat)) (n : Nat) : Bool :=
  ranges.any fun range => range.1 ≤ n && n ≤ range.2

/-- A character with the property `White_Space`. -/
def isBlank (c : Char) : Bool :=
  inRanges blankRanges c.toNat

/-- The list without the longest run of accepted elements at its end. -/
def dropEndWhile {α : Type} (accept : α → Bool) (xs : List α) : List α :=
  (xs.reverse.dropWhile accept).reverse

@[simp]
theorem dropEndWhile_nil {α : Type} (accept : α → Bool) : dropEndWhile accept [] = [] :=
  rfl

/-- What is dropped at the end was accepted, element by element. -/
theorem exists_dropEndWhile_append {α : Type} (accept : α → Bool) (xs : List α) :
    ∃ dropped, xs = dropEndWhile accept xs ++ dropped ∧ ∀ x ∈ dropped, accept x = true := by
  refine ⟨(xs.reverse.takeWhile accept).reverse, ?_, ?_⟩
  · rw [dropEndWhile, ← List.reverse_append, List.takeWhile_append_dropWhile, List.reverse_reverse]
  · intro x hx
    exact List.all_eq_true.mp List.all_takeWhile x (List.mem_reverse.mp hx)

/-- The characters without the blanks at both ends. -/
def trimChars (cs : List Char) : List Char :=
  dropEndWhile isBlank (cs.dropWhile isBlank)

/-- The text without the blanks at both ends. -/
def trim (s : String) : String :=
  String.ofList (trimChars s.toList)

end WebhookSync.Text
