import WebhookSync.Proofs.Dialogue

/-!
# Transcripts of dialogues

What is asked and answered in a dialogue makes up its transcript.  `Leads` says which transcripts a
dialogue can have at all and what it comes to behind them, whoever answers; so a statement about all
of them is one about every way of answering (`leads_transcript`).
-/

namespace WebhookSync.Dialogue

variable {Question : Type} {Answer : Question → Type} {α β ε σ : Type}

/-- A question and what came back. -/
structure Exchange (Question : Type) (Answer : Question → Type) where
  question : Question
  answer : Answer question

/-- The exchanges of a dialogue whose questions are answered out of a state. -/
def transcript (answer : (question : Question) → σ → Answer question × σ) :
    Dialogue Question Answer α → σ → List (Exchange Question Answer)
  | done _, _ => []
  | ask question next, state =>
      let answered := answer question state
      ⟨question, answered.1⟩ :: transcript answer (next answered.1) answered.2

/-- The dialogue can have these exchanges and then comes to this result. -/
inductive Leads : Dialogue Question Answer α → List (Exchange Question Answer) → α → Prop where
  | done (result : α) : Leads (.done result) [] result
  | ask {question : Question} {next : Answer question → Dialogue Question Answer α}
      {answer : Answer question} {exchanges : List (Exchange Question Answer)} {result : α}
      (onward : Leads (next answer) exchanges result) :
      Leads (.ask question next) (⟨question, answer⟩ :: exchanges) result

/-- Whoever answers, the exchanges are some that the dialogue can have. -/
theorem leads_transcript (answer : (question : Question) → σ → Answer question × σ)
    (dialogue : Dialogue Question Answer α) (state : σ) :
    Leads dialogue (transcript answer dialogue state) (dialogue.run answer state).1 := by
  induction dialogue generalizing state with
  | done result => exact .done result
  | ask question next ih => exact .ask (ih _ _)

@[simp]
theorem leads_done_iff {ends result : α} {exchanges : List (Exchange Question Answer)} :
    Leads (done ends : Dialogue Question Answer α) exchanges result ↔
      exchanges = [] ∧ result = ends := by
  constructor
  · rintro ⟨⟩
    exact ⟨rfl, rfl⟩
  · rintro ⟨rfl, rfl⟩
    exact .done result

theorem leads_ask_iff {question : Question} {next : Answer question → Dialogue Question Answer α}
    {exchanges : List (Exchange Question Answer)} {result : α} :
    Leads (ask question next) exchanges result ↔
      ∃ answer rest, exchanges = ⟨question, answer⟩ :: rest ∧ Leads (next answer) rest result := by
  constructor
  · rintro ⟨⟩
    exact ⟨_, _, rfl, ‹_›⟩
  · rintro ⟨answer, rest, rfl, onward⟩
    exact .ask onward

/-- A dialogue that goes on with another one has the exchanges of the one and then those of the
other. -/
theorem leads_bind_iff {first : Dialogue Question Answer α}
    {second : α → Dialogue Question Answer β} {exchanges : List (Exchange Question Answer)}
    {result : β} :
    Leads (first.bind second) exchanges result ↔
      ∃ middle before after, exchanges = before ++ after ∧ Leads first before middle ∧
        Leads (second middle) after result := by
  induction first generalizing exchanges with
  | done middle =>
      constructor
      · intro leads
        exact ⟨middle, [], exchanges, rfl, .done middle, leads⟩
      · rintro ⟨middle', before, after, rfl, leads, onward⟩
        obtain ⟨rfl, rfl⟩ := leads_done_iff.mp leads
        exact onward
  | ask question next ih =>
      constructor
      · intro leads
        obtain ⟨answer, rest, rfl, onward⟩ := leads_ask_iff.mp leads
        obtain ⟨middle, before, after, rfl, leadsFirst, leadsSecond⟩ := (ih answer).mp onward
        exact ⟨middle, _, after, (List.cons_append ..).symm, .ask leadsFirst, leadsSecond⟩
      · rintro ⟨middle, before, after, rfl, leadsFirst, leadsSecond⟩
        obtain ⟨answer, rest, rfl, onward⟩ := leads_ask_iff.mp leadsFirst
        exact .ask ((ih answer).mpr ⟨middle, rest, after, rfl, onward, leadsSecond⟩)

theorem leads_map_iff {f : α → β} {dialogue : Dialogue Question Answer α}
    {exchanges : List (Exchange Question Answer)} {result : β} :
    Leads (dialogue.map f) exchanges result ↔ ∃ value, Leads dialogue exchanges value ∧
      result = f value := by
  constructor
  · intro leads
    obtain ⟨value, before, after, rfl, leads, onward⟩ := leads_bind_iff.mp leads
    obtain ⟨rfl, rfl⟩ := leads_done_iff.mp onward
    exact ⟨value, by rwa [List.append_nil], rfl⟩
  · rintro ⟨value, leads, rfl⟩
    exact leads_bind_iff.mpr ⟨value, exchanges, [], (List.append_nil _).symm, leads, .done _⟩

theorem leads_andThen {first : Dialogue Question Answer (Except ε α)}
    {second : α → Dialogue Question Answer (Except ε β)}
    {exchanges : List (Exchange Question Answer)} {result : Except ε β}
    (leads : Leads (first.andThen second) exchanges result) :
    ∃ middle before after, exchanges = before ++ after ∧ Leads first before middle ∧
      ((∃ failure, middle = .error failure ∧ after = [] ∧ result = .error failure) ∨
        ∃ value, middle = .ok value ∧ Leads (second value) after result) := by
  obtain ⟨middle, before, after, rfl, leadsFirst, onward⟩ := leads_bind_iff.mp leads
  refine ⟨middle, before, after, rfl, leadsFirst, ?_⟩
  cases middle with
  | error failure =>
      obtain ⟨rfl, rfl⟩ := leads_done_iff.mp onward
      exact .inl ⟨failure, rfl, rfl, rfl⟩
  | ok value => exact .inr ⟨value, rfl, onward⟩

/-- Where the whole succeeds, its first part has succeeded. -/
theorem leads_andThen_ok {first : Dialogue Question Answer (Except ε α)}
    {second : α → Dialogue Question Answer (Except ε β)}
    {exchanges : List (Exchange Question Answer)} {result : β}
    (leads : Leads (first.andThen second) exchanges (.ok result)) :
    ∃ value before after, exchanges = before ++ after ∧ Leads first before (.ok value) ∧
      Leads (second value) after (.ok result) := by
  obtain ⟨_, before, after, rfl, leadsFirst, failed | ⟨value, rfl, onward⟩⟩ := leads_andThen leads
  · obtain ⟨_, _, _, fails⟩ := failed
    cases fails
  · exact ⟨value, before, after, rfl, leadsFirst, onward⟩

/-- What requires a reply and succeeds has had the reply. -/
theorem leads_require {Reply : Question → Type} {question : Question}
    {next : Reply question → Dialogue Question (fun asked => Except ε (Reply asked)) (Except ε α)}
    {exchanges : List (Exchange Question fun asked => Except ε (Reply asked))} {result : α}
    (leads : Leads (require question next) exchanges (.ok result)) :
    ∃ reply rest, exchanges = ⟨question, .ok reply⟩ :: rest ∧
      Leads (next reply) rest (.ok result) := by
  obtain ⟨answer, rest, rfl, onward⟩ := leads_ask_iff.mp leads
  cases answer with
  | error failure => cases (leads_done_iff.mp onward).2
  | ok reply => exact ⟨reply, rest, rfl, onward⟩

/-! ## Running -/

theorem transcript_bind (answer : (question : Question) → σ → Answer question × σ)
    (first : Dialogue Question Answer α) (second : α → Dialogue Question Answer β) (state : σ) :
    transcript answer (first.bind second) state =
      transcript answer first state ++
        transcript answer (second (first.run answer state).1) (first.run answer state).2 := by
  induction first generalizing state with
  | done result => rfl
  | ask question next ih => exact congrArg (_ :: ·) (ih _ _)

/-- Where states that hold give the answers of a transcript and keep holding, the dialogue takes the
course of the transcript. -/
theorem Leads.run_eq {dialogue : Dialogue Question Answer α}
    {exchanges : List (Exchange Question Answer)} {result : α}
    (leads : Leads dialogue exchanges result)
    {answer : (question : Question) → σ → Answer question × σ} {Holds : σ → Prop}
    (answers : ∀ exchange ∈ exchanges, ∀ state, Holds state →
      (answer exchange.question state).1 = exchange.answer ∧
        Holds (answer exchange.question state).2) {state : σ} (holds : Holds state) :
    (dialogue.run answer state).1 = result ∧ Holds (dialogue.run answer state).2 ∧
      transcript answer dialogue state = exchanges := by
  induction leads generalizing state with
  | done result => exact ⟨rfl, holds, rfl⟩
  | ask onward ih =>
      obtain ⟨first, holdsOn⟩ := answers _ List.mem_cons_self state holds
      simp only [run_ask, transcript, first]
      obtain ⟨isResult, holdsLast, same⟩ :=
        ih (fun exchange member => answers exchange (List.mem_cons_of_mem _ member)) holdsOn
      exact ⟨isResult, holdsLast, by rw [same]⟩

/-- With the same answers to the same questions a dialogue takes the same course. -/
theorem Leads.unique {dialogue : Dialogue Question Answer α}
    {exchanges others : List (Exchange Question Answer)} {result other : α}
    (leads : Leads dialogue exchanges result) (leadsToo : Leads dialogue others other)
    {read : (question : Question) → Answer question}
    (answers : ∀ exchange ∈ exchanges, exchange.answer = read exchange.question)
    (answersToo : ∀ exchange ∈ others, exchange.answer = read exchange.question) :
    exchanges = others ∧ result = other := by
  induction leads generalizing others with
  | done result =>
      obtain ⟨rfl, rfl⟩ := leads_done_iff.mp leadsToo
      exact ⟨rfl, rfl⟩
  | @ask question next found rest result onward ih =>
      obtain ⟨answer, others, rfl, onwardToo⟩ := leads_ask_iff.mp leadsToo
      obtain rfl : found = answer :=
        (answers _ List.mem_cons_self).trans (answersToo _ List.mem_cons_self).symm
      obtain ⟨rfl, sameResult⟩ := ih onwardToo
        (fun exchange member => answers exchange (List.mem_cons_of_mem _ member))
        fun exchange member => answersToo exchange (List.mem_cons_of_mem _ member)
      exact ⟨rfl, sameResult⟩

/-! ## Questions of one sort -/

/-- Whatever the answers, the dialogue asks only questions of a sort. -/
inductive Asks (Holds : Question → Prop) : Dialogue Question Answer α → Prop where
  | done (result : α) : Asks Holds (.done result)
  | ask {question : Question} {next : Answer question → Dialogue Question Answer α}
      (holds : Holds question) (onward : ∀ answer, Asks Holds (next answer)) :
      Asks Holds (.ask question next)

section Asks

variable {Holds : Question → Prop}

theorem Asks.mono {dialogue : Dialogue Question Answer α} (asks : Asks Holds dialogue)
    {Holds' : Question → Prop} (implies : ∀ question, Holds question → Holds' question) :
    Asks Holds' dialogue := by
  induction asks with
  | done result => exact .done result
  | ask holds onward ih => exact .ask (implies _ holds) ih

theorem Asks.bind {first : Dialogue Question Answer α} {second : α → Dialogue Question Answer β}
    (firstAsks : Asks Holds first) (secondAsks : ∀ result, Asks Holds (second result)) :
    Asks Holds (first.bind second) := by
  induction firstAsks with
  | done result => exact secondAsks result
  | ask holds onward ih => exact .ask holds ih

theorem Asks.map {dialogue : Dialogue Question Answer α} (asks : Asks Holds dialogue) (f : α → β) :
    Asks Holds (dialogue.map f) :=
  asks.bind fun _ => .done _

/-- A dialogue whose answers are found by dialogues that ask questions of a sort does so itself. -/
theorem Asks.expand {Question' : Type} {Answer' : Question' → Type}
    {find : (question : Question') → Dialogue Question Answer (Answer' question)}
    {Holds' : Question' → Prop} {dialogue : Dialogue Question' Answer' α}
    (asks : Asks Holds' dialogue)
    (found : ∀ question, Holds' question → Asks Holds (find question)) :
    Asks Holds (dialogue.expand find) := by
  induction asks with
  | done result => exact .done result
  | ask holds onward ih => exact (found _ holds).bind ih

theorem Asks.of_leads {dialogue : Dialogue Question Answer α} (asks : Asks Holds dialogue)
    {exchanges : List (Exchange Question Answer)} {result : α}
    (leads : Leads dialogue exchanges result) :
    ∀ exchange ∈ exchanges, Holds exchange.question := by
  induction leads with
  | done result => exact fun exchange member => absurd member List.not_mem_nil
  | ask leads ih =>
      cases asks with
      | ask holds onward =>
          intro exchange member
          rcases List.mem_cons.mp member with rfl | later
          · exact holds
          · exact ih (onward _) exchange later

/-- Those who are alike, and remain so with each question of a sort, to which they have the same
answer, lead a dialogue of such questions in the same way. -/
theorem Asks.run_congr {τ : Type} {dialogue : Dialogue Question Answer α}
    (asks : Asks Holds dialogue) {first : (question : Question) → σ → Answer question × σ}
    {second : (question : Question) → τ → Answer question × τ} {Alike : σ → τ → Prop}
    (same : ∀ question, Holds question → ∀ state other, Alike state other →
      (first question state).1 = (second question other).1 ∧
        Alike (first question state).2 (second question other).2)
    {state : σ} {other : τ} (alike : Alike state other) :
    (dialogue.run first state).1 = (dialogue.run second other).1 ∧
      Alike (dialogue.run first state).2 (dialogue.run second other).2 ∧
      transcript first dialogue state = transcript second dialogue other := by
  induction asks generalizing state other with
  | done result => exact ⟨rfl, alike, rfl⟩
  | ask holds onward ih =>
      obtain ⟨sameAnswer, alikeOn⟩ := same _ holds state other alike
      simp only [run_ask, transcript, sameAnswer]
      obtain ⟨sameResult, alikeLast, sameExchanges⟩ := ih _ alikeOn
      exact ⟨sameResult, alikeLast, by rw [sameExchanges]⟩

end Asks

end WebhookSync.Dialogue
