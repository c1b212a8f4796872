import WebhookSync.Json.Read

/-!
# Drafts of records

A record is read in two steps: its members are put together in a draft, and the draft is finished.
So what a record's reader makes of a text is what finishing makes of the members that stand there
(`RecordShape.whole_reader`).
-/

namespace WebhookSync.Json.RecordShape

variable {δ α : Type}

/-- The shape whose records are the drafts. -/
def drafting (shape : RecordShape δ α) : RecordShape δ δ :=
  { shape with finish := .ok }

theorem positional_drafting (shape : RecordShape δ α) (position : Nat) (draft : δ)
    (fields : List (Field δ)) (text : Text.Decoded) :
    shape.drafting.positional position draft fields text =
      shape.positional position draft fields text := by
  induction fields generalizing position draft text with
  | nil => rfl
  | cons field others ih =>
      unfold positional
      simp only [ih]
      rfl

section Finishing

variable {shape : RecordShape δ α} {value : δ → α}
  (finishes : ∀ draft, shape.finish draft = .ok (value draft))

include finishes

/-- Where a draft can always be finished, a record is a finished draft. -/
theorem reader_eq_map (text : Text.Decoded) :
    shape.reader text =
      (shape.drafting.reader text).map fun found => (value found.1, found.2) := by
  unfold reader
  simp only [finishes]
  split
  · rename_i rest _
    have sameDraft := positional_drafting shape 0 shape.start shape.fields rest
    change _ = Except.map _ ((shape.drafting.positional 0 shape.start shape.fields rest).bind _)
    rw [sameDraft]
    cases positional shape 0 shape.start shape.fields rest <;> rfl
  · rename_i rest _
    change _ = Except.map _ ((members stringBody shape.member shape.start rest).bind _)
    cases members stringBody shape.member shape.start rest <;> rfl
  · rfl

theorem whole_reader (text : Text.Decoded) :
    shape.reader.whole text = (shape.drafting.reader.whole text).map value := by
  unfold Reader.whole
  rw [reader_eq_map finishes]
  cases shape.drafting.reader text with
  | error fault => rfl
  | ok found =>
      simp only [Except.map, bind, Except.bind]
      split <;> rfl

end Finishing

end WebhookSync.Json.RecordShape
