import WebhookSync.Dialogue

/-!
# Laws of dialogues

Going on with one dialogue after another does not depend on how the dialogues are grouped, also
where each goes on only when the one before it did not fail.
-/

namespace WebhookSync

namespace Dialogue

variable {Question : Type} {Answer : Question → Type} {α β γ ε : Type}

theorem bind_assoc (first : Dialogue Question Answer α) (second : α → Dialogue Question Answer β)
    (third : β → Dialogue Question Answer γ) :
    (first.bind second).bind third = first.bind fun result => (second result).bind third := by
  induction first with
  | done result => rfl
  | ask question next ih =>
      simp only [bind]
      congr 1
      exact funext ih

@[simp]
theorem done_ok_andThen (result : α) (second : α → Dialogue Question Answer (Except ε β)) :
    (done (.ok result) : Dialogue Question Answer (Except ε α)).andThen second = second result :=
  rfl

theorem andThen_assoc (first : Dialogue Question Answer (Except ε α))
    (second : α → Dialogue Question Answer (Except ε β))
    (third : β → Dialogue Question Answer (Except ε γ)) :
    (first.andThen second).andThen third =
      first.andThen fun result => (second result).andThen third := by
  unfold andThen
  rw [bind_assoc]
  congr 1
  funext result
  cases result <;> rfl

theorem require_andThen {Reply : Question → Type} (question : Question)
    (next : Reply question → Dialogue Question (fun asked => Except ε (Reply asked)) (Except ε α))
    (second : α → Dialogue Question (fun asked => Except ε (Reply asked)) (Except ε β)) :
    (require question next).andThen second =
      require question fun reply => (next reply).andThen second := by
  simp only [require, andThen, bind]
  congr 1
  funext answer
  cases answer <;> rfl

/-! ## Expanding -/

variable {Question' : Type} {Answer' : Question' → Type}
  (find : (question : Question) → Dialogue Question' Answer' (Answer question))

theorem expand_bind (first : Dialogue Question Answer α)
    (second : α → Dialogue Question Answer β) :
    (first.bind second).expand find =
      (first.expand find).bind fun result => (second result).expand find := by
  induction first with
  | done result => rfl
  | ask question next ih =>
      simp only [bind, expand, bind_assoc]
      congr 1
      exact funext ih

theorem expand_andThen (first : Dialogue Question Answer (Except ε α))
    (second : α → Dialogue Question Answer (Except ε β)) :
    (first.andThen second).expand find =
      (first.expand find).andThen fun result => (second result).expand find := by
  unfold andThen
  rw [expand_bind]
  congr 1
  funext result
  cases result <;> rfl

end Dialogue

end WebhookSync
