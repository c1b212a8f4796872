import WebhookSync.Program
import WebhookSync.Proofs.Server.Sending

/-!
# Acts of commands

The acts of a command are what it sends and what it prints.  A server sees of them what is sent, and
what is printed makes up the output (`leads_observe`).  A command fails silently if it has printed
nothing wherever it fails; this is so where all that can fail stands in front of the first line
(`FailsSilently.andThen`).
-/

namespace WebhookSync.Program

open Dialogue (Leads leads_ask_iff leads_done_iff)

/-- An act and what came back. -/
abbrev Act.Exchange : Type :=
  Dialogue.Exchange Act Act.Reply

variable {α β : Type}

/-! ## Traces -/

/-- The exchanges with the server among acts. -/
def sent : List Act.Exchange → List Server.Exchange
  | [] => []
  | ⟨.send request, answer⟩ :: rest => ⟨request, answer⟩ :: sent rest
  | ⟨.print _, _⟩ :: rest => sent rest

/-- The lines that are printed among acts. -/
def printed : List Act.Exchange → List String
  | [] => []
  | ⟨.send _, _⟩ :: rest => printed rest
  | ⟨.print line, _⟩ :: rest => line :: printed rest

@[simp]
theorem sent_append (first second : List Act.Exchange) :
    sent (first ++ second) = sent first ++ sent second := by
  induction first with
  | nil => rfl
  | cons exchange rest ih =>
      obtain ⟨request | line, reply⟩ := exchange
      · simp only [List.cons_append, sent, ih]
      · simp only [List.cons_append, sent, ih]

@[simp]
theorem printed_append (first second : List Act.Exchange) :
    printed (first ++ second) = printed first ++ printed second := by
  induction first with
  | nil => rfl
  | cons exchange rest ih =>
      obtain ⟨request | line, reply⟩ := exchange
      · simp only [List.cons_append, printed, ih]
      · simp only [List.cons_append, printed, ih]

/-- What is observed of a course of acts are the requests, and the lines in their order. -/
theorem leads_observe {session : Dialogue Act Act.Reply α} {before : String}
    {exchanges : List Server.Exchange} {seen : String × α}
    (leads : Leads (observe before session) exchanges seen) :
    ∃ acts, Leads session acts seen.2 ∧ sent acts = exchanges ∧
      seen.1 = before ++ Console.unlines (printed acts) := by
  induction session generalizing before exchanges with
  | done result =>
      obtain ⟨rfl, rfl⟩ := leads_done_iff.mp leads
      exact ⟨[], .done result, rfl, String.append_empty.symm⟩
  | ask act next ih =>
      cases act with
      | send request =>
          obtain ⟨answer, rest, rfl, onward⟩ := leads_ask_iff.mp leads
          obtain ⟨acts, leadsOn, rfl, output⟩ := ih answer onward
          exact ⟨⟨.send request, answer⟩ :: acts, .ask leadsOn, rfl, output⟩
      | print line =>
          obtain ⟨acts, leadsOn, rfl, output⟩ := ih () leads
          refine ⟨⟨.print line, ()⟩ :: acts, .ask leadsOn, rfl, ?_⟩
          rw [output, String.append_assoc]
          simp [printed, Console.unlines]

/-! ## Courses of acts -/

/-- A dialogue with a server prints nothing. -/
theorem leads_converse {client : Server.Client} {session : Gateway.Session (Except Trouble α)}
    {acts : List Act.Exchange} {result : Except Trouble α}
    (leads : Leads (Session.converse client session) acts result) :
    Leads (client.converse session) (sent acts) result ∧ printed acts = [] := by
  unfold Session.converse at leads
  generalize client.converse session = dialogue at leads
  induction dialogue generalizing acts with
  | done result =>
      obtain ⟨rfl, rfl⟩ := leads_done_iff.mp leads
      exact ⟨.done _, rfl⟩
  | ask request next ih =>
      obtain ⟨answer, rest, rfl, onward⟩ := leads_ask_iff.mp leads
      obtain ⟨leadsOn, nothing⟩ := ih answer onward
      exact ⟨.ask leadsOn, nothing⟩

/-- Printing lines does not fail. -/
theorem leads_printAll {lines : List String} {acts : List Act.Exchange}
    {result : Except Trouble Unit} (leads : Leads (Session.printAll lines) acts result) :
    result = .ok () ∧ sent acts = [] ∧ printed acts = lines := by
  induction lines generalizing acts with
  | nil =>
      obtain ⟨rfl, rfl⟩ := leads_done_iff.mp leads
      exact ⟨rfl, rfl, rfl⟩
  | cons line rest ih =>
      obtain ⟨_, after, rfl, onward⟩ := leads_ask_iff.mp leads
      obtain ⟨isOk, nothing, lines⟩ := ih onward
      exact ⟨isOk, nothing, congrArg (line :: ·) lines⟩

/-- The course of acts prints, does nothing else and does not fail. -/
def OnlyPrints (session : Session Unit) : Prop :=
  ∀ acts result, Leads session acts result → result = .ok () ∧ sent acts = []

theorem onlyPrints_printAll (lines : List String) : OnlyPrints (Session.printAll lines) := by
  intro acts result leads
  obtain ⟨isOk, nothing, _⟩ := leads_printAll leads
  exact ⟨isOk, nothing⟩

/-- Wherever the course of acts fails, nothing has been printed. -/
def FailsSilently (session : Session α) : Prop :=
  ∀ acts trouble, Leads session acts (.error trouble) → printed acts = []

theorem failsSilently_done (result : Except Trouble α) :
    FailsSilently (.done result : Session α) := by
  intro acts trouble leads
  rw [(leads_done_iff.mp leads).1]
  rfl

theorem OnlyPrints.failsSilently {session : Session Unit} (prints : OnlyPrints session) :
    FailsSilently session := by
  intro acts trouble leads
  cases (prints acts _ leads).1

/-- Where the first part prints nothing, only the second one matters. -/
theorem FailsSilently.andThen {first : Session α} {second : α → Session β}
    (silent : ∀ acts result, Leads first acts result → printed acts = [])
    (onward : ∀ value, FailsSilently (second value)) : FailsSilently (first.andThen second) := by
  intro acts trouble leads
  obtain ⟨middle, before, after, rfl, leadsFirst, ends | ⟨value, rfl, leadsSecond⟩⟩ :=
    Dialogue.leads_andThen leads
  · obtain ⟨_, _, rfl, _⟩ := ends
    rw [List.append_nil]
    exact silent before middle leadsFirst
  · rw [printed_append, silent before _ leadsFirst]
    exact onward value after trouble leadsSecond

end WebhookSync.Program
