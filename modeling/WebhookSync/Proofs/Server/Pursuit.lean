import WebhookSync.Proofs.Gateway.Errand
import WebhookSync.Proofs.Server.Sending

/-!
# Errands with a server

A change takes one request.  So an errand of changes sends the requests of its calls in order, up to
the first that does not get the answer it was sent for (`Pursuit`); and it succeeds just when there
is no such request.
-/

namespace WebhookSync.Server

open Dialogue (Asks Leads)
open Gateway (Call Errand)

namespace Client

variable {client : Client} {α : Type}

theorem converse_ask {call : Call} (next : Gateway.Answer call → Gateway.Session α) :
    client.converse (.ask call next) =
      (client.answer call).bind fun answer => client.converse (next answer) :=
  rfl

/-! ## One change -/

/-- The request of a change is all that is sent for it. -/
theorem answer_of_isMutation (client : Client) {call : Call} (mutates : call.isMutation = true) :
    ∃ method url body, ∃ read : Http.Response → Except Failure call.Reply,
      client.answer call = client.send method url body (fun response => .done (read response)) ∧
        client.requestFor call = client.request method url body ∧
        url.scheme = client.base.scheme ∧ method ≠ .get ∧
        ∀ response, (read response).isOk = (purposeOf call).isServedBy response := by
  cases call with
  | supportedEvents => cases mutates
  | list repository filter => cases mutates
  | create repository name events url =>
      exact ⟨_, _, _, _, rfl, rfl, rfl, Http.Method.noConfusion, fun _ => rfl⟩
  | update repository id name events url =>
      exact ⟨_, _, _, _, rfl, rfl, rfl, Http.Method.noConfusion, fun _ => rfl⟩
  | delete repository id =>
      refine ⟨.delete, client.webhookUrl repository id, none, fun response =>
        if response.isSuccess then .ok () else .error (refusal response), ?_, rfl, rfl,
        Http.Method.noConfusion, fun response => ?_⟩
      · refine congrArg (client.send _ _ _) (funext fun response => ?_)
        exact (apply_ite Dialogue.done _ _ _).symm
      · change Except.isOk (if response.isSuccess then _ else _) = response.isSuccess
        cases response.isSuccess <;> rfl

theorem leads_answer_of_isMutation {call : Call} (mutates : call.isMutation = true)
    {exchanges : List Exchange} {answer : Gateway.Answer call}
    (leads : Leads (client.answer call) exchanges answer) :
    (¬client.CanSend client.base ∧ exchanges = [] ∧ ∃ failure, answer = .error failure) ∨
      ∃ came, exchanges = [(client.entryOf call came).exchange] ∧
        answer.isOk = (client.entryOf call came).isMet := by
  obtain ⟨method, url, body, read, isSend, isRequest, sameScheme, _, reads⟩ :=
    answer_of_isMutation client mutates
  rw [isSend] at leads
  rcases leads_send leads with ⟨cannotSend, rfl, cause, rfl⟩ | ⟨came, rest, rfl, onward⟩
  · exact .inl ⟨fun canSend => cannotSend (canSend.congr sameScheme), rfl, _, rfl⟩
  · refine .inr ⟨came, ?_⟩
    cases came with
    | error fault =>
        obtain ⟨rfl, rfl⟩ := Dialogue.leads_done_iff.mp onward
        exact ⟨by rw [← isRequest]; rfl, rfl⟩
    | ok response =>
        obtain ⟨rfl, rfl⟩ := Dialogue.leads_done_iff.mp onward
        exact ⟨by rw [← isRequest]; rfl, reads response⟩

/-- The request of a change is no reading one. -/
theorem asks_answer_of_isMutation {call : Call} (mutates : call.isMutation = true) :
    Asks (fun request => request.method ≠ .get) (client.answer call) := by
  obtain ⟨method, url, body, read, isSend, _, _, notGet, _⟩ :=
    answer_of_isMutation client mutates
  rw [isSend]
  exact asks_send notGet fun _ => .done _

end Client

/-! ## Calls one after the other -/

/-- The entries of calls that are made one after the other, up to the first that does not come to a
good end.  The mark tells whether all did. -/
inductive Pursuit (client : Client) : List Call → List Entry → Bool → Prop where
  | complete : Pursuit client [] [] true
  | unsent {call : Call} {calls : List Call} (cannotSend : ¬client.CanSend client.base) :
      Pursuit client (call :: calls) [] false
  | unmet {call : Call} {calls : List Call} {answer : Except Http.Fault Http.Response}
      (unmet : (client.entryOf call answer).isMet = false) :
      Pursuit client (call :: calls) [client.entryOf call answer] false
  | met {call : Call} {calls : List Call} {answer : Except Http.Fault Http.Response}
      {log : List Entry} {complete : Bool} (met : (client.entryOf call answer).isMet = true)
      (onward : Pursuit client calls log complete) :
      Pursuit client (call :: calls) (client.entryOf call answer :: log) complete

/-- An errand of changes pursues its calls, and succeeds just when all come to a good end. -/
theorem pursuit_of_leads {client : Client} {α : Type} {Ends : α → Prop} {calls : List Call}
    {session : Gateway.Session (Except Failure α)} (errand : Errand Ends calls session)
    (mutate : ∀ call ∈ calls, call.isMutation = true) {exchanges : List Exchange}
    {result : Except Failure α} (leads : Leads (client.converse session) exchanges result) :
    ∃ log, exchanges = log.map Entry.exchange ∧ Pursuit client calls log result.isOk ∧
      ∀ value, result = .ok value → Ends value := by
  induction errand generalizing exchanges with
  | done ends =>
      obtain ⟨rfl, rfl⟩ := Dialogue.leads_done_iff.mp leads
      exact ⟨[], rfl, .complete, fun value isOk => Except.ok.inj isOk ▸ ends⟩
  | @ask call calls next givesUp onward ih =>
      rw [Client.converse_ask] at leads
      obtain ⟨answer, before, after, rfl, first, then_⟩ := Dialogue.leads_bind_iff.mp leads
      have mutates := mutate call List.mem_cons_self
      cases answer with
      | error failure =>
          rw [givesUp] at then_
          obtain ⟨rfl, rfl⟩ := Dialogue.leads_done_iff.mp then_
          rcases Client.leads_answer_of_isMutation mutates first with
            ⟨cannotSend, rfl, _⟩ | ⟨came, rfl, unmet⟩
          · exact ⟨[], rfl, .unsent cannotSend, fun value isOk => by cases isOk⟩
          · exact ⟨[_], rfl, .unmet unmet.symm, fun value isOk => by cases isOk⟩
      | ok reply =>
          rcases Client.leads_answer_of_isMutation mutates first with
            ⟨_, _, failure, fails⟩ | ⟨came, rfl, met⟩
          · cases fails
          · obtain ⟨log, rfl, pursuit, ends⟩ := ih reply
              (fun other member => mutate other (List.mem_cons_of_mem call member)) then_
            exact ⟨client.entryOf call came :: log, rfl, .met met.symm pursuit, ends⟩

namespace Pursuit

variable {client : Client} {calls : List Call} {log : List Entry} {complete : Bool}

/-- The requests are those of the first calls. -/
theorem exists_prefix (pursuit : Pursuit client calls log complete) :
    ∃ made, made <+: calls ∧ log.map (·.exchange.question) = made.map client.requestFor ∧
      log.map Entry.purpose = made.map Client.purposeOf ∧ (complete = true → made = calls) := by
  induction pursuit with
  | complete => exact ⟨[], List.prefix_rfl, rfl, rfl, fun _ => rfl⟩
  | unsent cannotSend => exact ⟨[], List.nil_prefix, rfl, rfl, fun isTrue => by cases isTrue⟩
  | @unmet call calls answer unmet =>
      exact ⟨[call], List.prefix_append [call] calls, rfl, rfl, fun isTrue => by cases isTrue⟩
  | @met call calls answer log complete met onward ih =>
      obtain ⟨made, part, sameRequests, samePurposes, whole⟩ := ih
      refine ⟨call :: made, List.cons_prefix_cons.mpr ⟨rfl, part⟩, ?_, ?_, fun isTrue => ?_⟩
      · rw [List.map_cons, List.map_cons, sameRequests]
        rfl
      · rw [List.map_cons, List.map_cons, samePurposes]
        rfl
      · rw [whole isTrue]

/-- Only the last request can have failed. -/
theorem isMet_of_mem_dropLast (pursuit : Pursuit client calls log complete) {entry : Entry}
    (member : entry ∈ log.dropLast) : entry.isMet = true := by
  induction pursuit with
  | complete => cases member
  | unsent cannotSend => cases member
  | unmet unmet => cases member
  | @met call calls answer log complete met onward ih =>
      cases log with
      | nil => cases member
      | cons second rest =>
          rcases List.mem_cons.mp member with rfl | later
          · exact met
          · exact ih later

theorem isMet_of_complete (pursuit : Pursuit client calls log complete)
    (isComplete : complete = true) {entry : Entry} (member : entry ∈ log) :
    entry.isMet = true := by
  induction pursuit with
  | complete => cases member
  | unsent cannotSend => cases isComplete
  | unmet unmet => cases isComplete
  | met met onward ih =>
      rcases List.mem_cons.mp member with rfl | later
      · exact met
      · exact ih isComplete later

end Pursuit

end WebhookSync.Server
