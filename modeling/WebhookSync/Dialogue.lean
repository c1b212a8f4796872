/-!
# Dialogues

A dialogue asks questions, one at a time, and goes on in a way that depends on the answers.  It
says nothing about who answers: a store in memory, a server behind a network or a script.  So one
and the same dialogue can be run, foreseen, taken apart question by question, or have its questions
answered by another dialogue.
-/

namespace WebhookSync

/-- A course of questions that ends with a result. -/
inductive Dialogue (Question : Type) (Answer : Question → Type) (α : Type) where
  | done (result : α)
  | ask (question : Question) (next : Answer question → Dialogue Question Answer α)

namespace Dialogue

variable {Question : Type} {Answer : Question → Type} {α β ε σ : Type}

/-- Go on with another dialogue that depends on the result. -/
def bind (first : Dialogue Question Answer α) (second : α → Dialogue Question Answer β) :
    Dialogue Question Answer β :=
  match first with
  | done result => second result
  | ask question next => ask question fun answer => (next answer).bind second

/-- A dialogue whose result is changed at the end. -/
def map (f : α → β) (dialogue : Dialogue Question Answer α) : Dialogue Question Answer β :=
  dialogue.bind fun result => done (f result)

/-- Go on with another dialogue unless the first one failed. -/
def andThen (first : Dialogue Question Answer (Except ε α))
    (second : α → Dialogue Question Answer (Except ε β)) : Dialogue Question Answer (Except ε β) :=
  first.bind fun
    | .error fault => done (.error fault)
    | .ok result => second result

/-- Ask a question and go on with the answer, unless the answer is a fault. -/
def require {Reply : Question → Type} (question : Question)
    (next : Reply question → Dialogue Question (fun asked => Except ε (Reply asked)) (Except ε β)) :
    Dialogue Question (fun asked => Except ε (Reply asked)) (Except ε β) :=
  ask question fun
    | .error fault => done (.error fault)
    | .ok reply => next reply

/-- The result of a dialogue when the questions are answered out of a state, which they change. -/
def run (answer : (question : Question) → σ → Answer question × σ) :
    Dialogue Question Answer α → σ → α × σ
  | done result, state => (result, state)
  | ask question next, state =>
      let answered := answer question state
      run answer (next answered.1) answered.2

/-- A dialogue in which other dialogues find the answers. -/
def expand {Question' : Type} {Answer' : Question' → Type}
    (find : (question : Question) → Dialogue Question' Answer' (Answer question)) :
    Dialogue Question Answer α → Dialogue Question' Answer' α
  | done result => done result
  | ask question next => (find question).bind fun answer => expand find (next answer)

/-! ## Running -/

@[simp]
theorem run_done (answer : (question : Question) → σ → Answer question × σ) (result : α)
    (state : σ) : (done result : Dialogue Question Answer α).run answer state = (result, state) :=
  rfl

@[simp]
theorem run_ask (answer : (question : Question) → σ → Answer question × σ) (question : Question)
    (next : Answer question → Dialogue Question Answer α) (state : σ) :
    (ask question next).run answer state =
      (next (answer question state).1).run answer (answer question state).2 :=
  rfl

/-- A dialogue that goes on with another one is run by running the one after the other. -/
theorem run_bind (answer : (question : Question) → σ → Answer question × σ)
    (first : Dialogue Question Answer α) (second : α → Dialogue Question Answer β) (state : σ) :
    (first.bind second).run answer state =
      (second (first.run answer state).1).run answer (first.run answer state).2 := by
  induction first generalizing state with
  | done result => rfl
  | ask question next ih => exact ih _ _

end Dialogue

end WebhookSync
