import WebhookSync.Proofs.Server.Pursuit
import WebhookSync.Reconcile.Basic

/-!
# Asking what a server supports

To find out what the server supports takes two requests, one for the document that links to the
other.  Whatever goes wrong ends the matter, and all but one failure ends the reconciliation that
wants to know: where the first document is not there, the server counts as one that cannot tell.
-/

namespace WebhookSync.Server

open Dialogue (Leads)

/-- The requests by which an answer about the supported events is found. -/
structure Probed (log : List Entry) (answer : Except Failure EventSet) : Prop where
  purposes : log.map Entry.purpose <+: [.capabilities, .supported]
  reads : ∀ entry ∈ log, entry.exchange.question.method = .get
  stops : ∀ entry ∈ log.dropLast, entry.isMet = true
  fails : ∀ entry ∈ log, entry.isMet = false →
    entry.LacksCapabilities ∨
      ∃ failure, answer = .error failure ∧ failure.isMissingCapability = false
  lacks : ∀ entry ∈ log, entry.LacksCapabilities →
    log = [entry] ∧ ∃ failure, answer = .error failure ∧ failure.isMissingCapability = true

namespace Probed

theorem unsent {failure : Failure} : Probed [] (.error failure) where
  purposes := List.nil_prefix
  reads := List.forall_mem_nil _
  stops := List.forall_mem_nil _
  fails := List.forall_mem_nil _
  lacks := List.forall_mem_nil _

/-- The first request is the only one. -/
theorem single {entry : Entry} {answer : Except Failure EventSet}
    (purpose : entry.purpose = .capabilities) (reads : entry.exchange.question.method = .get)
    (fails : entry.isMet = false → entry.LacksCapabilities ∨
      ∃ failure, answer = .error failure ∧ failure.isMissingCapability = false)
    (lacks : entry.LacksCapabilities →
      ∃ failure, answer = .error failure ∧ failure.isMissingCapability = true) :
    Probed [entry] answer where
  purposes := by simp [purpose]
  reads := List.forall_mem_singleton.mpr reads
  stops := List.forall_mem_nil _
  fails := List.forall_mem_singleton.mpr fails
  lacks := List.forall_mem_singleton.mpr fun isMissing => ⟨rfl, lacks isMissing⟩

/-- The first request has led to a second one. -/
theorem double {first second : Entry} {answer : Except Failure EventSet}
    (firstPurpose : first.purpose = .capabilities) (secondPurpose : second.purpose = .supported)
    (firstReads : first.exchange.question.method = .get)
    (secondReads : second.exchange.question.method = .get) (met : first.isMet = true)
    (there : ¬first.LacksCapabilities)
    (fails : second.isMet = false →
      ∃ failure, answer = .error failure ∧ failure.isMissingCapability = false) :
    Probed [first, second] answer where
  purposes := by simp [firstPurpose, secondPurpose]
  reads := by simp [firstReads, secondReads]
  stops := List.forall_mem_singleton.mpr met
  fails := by
    refine List.forall_mem_cons.mpr ⟨fun unmet => ?_, List.forall_mem_singleton.mpr fun unmet => ?_⟩
    · rw [met] at unmet
      cases unmet
    · exact .inr (fails unmet)
  lacks := by
    refine List.forall_mem_cons.mpr
      ⟨fun isMissing => absurd isMissing there, List.forall_mem_singleton.mpr fun isMissing => ?_⟩
    rw [isMissing.1] at secondPurpose
    cases secondPurpose

end Probed

namespace Client

variable {client : Client}

/-- A document that can be read is there. -/
theorem not_lacksCapabilities_of_isSuccess {entry : Entry} {response : Http.Response}
    (answered : entry.exchange.answer = .ok response) (success : response.isSuccess = true) :
    ¬entry.LacksCapabilities := by
  rintro ⟨_, other, answeredToo, notFound⟩
  obtain rfl := Except.ok.inj (answered.symm.trans answeredToo)
  rw [Http.Response.isSuccess, notFound] at success
  cases success

/-- What it means that the first document cannot be read: if it is not there, the server cannot
tell. -/
def withoutLinks : Failure → Failure
  | .notFound _ => .missingCapability "server does not publish capabilities"
  | failure => failure

theorem isMissingCapability_withoutLinks {response : Http.Response} {failure : Failure}
    (unread : decode capabilityLinksShape.reader response = .error failure) :
    (withoutLinks failure).isMissingCapability = true ↔ response.status = 404 := by
  constructor
  · intro isMissing
    unfold withoutLinks at isMissing
    split at isMissing
    · exact status_of_decode_eq_notFound unread
    · rw [isMissingCapability_of_decode_eq_error unread] at isMissing
      cases isMissing
  · intro notFound
    rw [decode_of_status_eq_notFound _ notFound] at unread
    obtain rfl := Except.error.inj unread
    rfl

/-- How the client goes on behind the first document. -/
theorem supportedEvents_eq_send (client : Client) :
    client.supportedEvents = client.send .get client.capabilitiesUrl none fun response =>
      match decode capabilityLinksShape.reader response with
      | .error failure => .done (.error (withoutLinks failure))
      | .ok links =>
          match linkOf? links "webhooks" with
          | none => .done (.error (.missingCapability "webhooks"))
          | some link => client.readSupported link := by
  unfold supportedEvents
  congr 1
  funext response
  cases decode capabilityLinksShape.reader response with
  | error failure => cases failure <;> rfl
  | ok links => rfl

theorem leads_readSupported {link : String} {exchanges : List Exchange}
    {answer : Except Failure EventSet}
    (leads : Leads (client.readSupported link) exchanges answer) :
    (exchanges = [] ∧ ∃ failure, answer = .error failure) ∨
      ∃ exchange, exchanges = [exchange] ∧ exchange.question.method = .get ∧
        ((Entry.mk .supported exchange).isMet = false →
          ∃ failure, answer = .error failure ∧ failure.isMissingCapability = false) := by
  unfold readSupported at leads
  split at leads
  · obtain ⟨rfl, rfl⟩ := Dialogue.leads_done_iff.mp leads
    exact .inl ⟨rfl, _, rfl⟩
  · rcases leads_send leads with ⟨_, rfl, cause, rfl⟩ | ⟨came, rest, rfl, onward⟩
    · exact .inl ⟨rfl, _, rfl⟩
    · cases came with
      | error fault =>
          obtain ⟨rfl, rfl⟩ := Dialogue.leads_done_iff.mp onward
          exact .inr ⟨_, rfl, rfl, fun _ => ⟨_, rfl, rfl⟩⟩
      | ok response =>
          obtain ⟨rfl, rfl⟩ := Dialogue.leads_done_iff.mp onward
          refine .inr ⟨_, rfl, rfl, fun unmet => ?_⟩
          cases read : decode supportedNamesShape.reader response with
          | error failure => exact ⟨failure, rfl, isMissingCapability_of_decode_eq_error read⟩
          | ok names =>
              have served : (decode supportedNamesShape.reader response).isOk = false := unmet
              rw [read] at served
              cases served

/-! ## The two requests -/

/-- The entry of the first request. -/
def linksEntry (client : Client) (answer : Except Http.Fault Http.Response) : Entry :=
  ⟨.capabilities, client.request .get client.capabilitiesUrl none, answer⟩

/-- Without a response, nobody knows whether the server can tell. -/
theorem probed_of_fault (client : Client) (fault : Http.Fault) :
    Probed [client.linksEntry (.error fault)] (.error (.transport fault)) := by
  refine .single rfl rfl (fun _ => .inr ⟨_, rfl, rfl⟩) ?_
  rintro ⟨_, response, isResponse, _⟩
  cases isResponse

/-- If the first document cannot be read, that is all. -/
theorem probed_of_unread (client : Client) {response : Http.Response} {failure : Failure}
    (unread : decode capabilityLinksShape.reader response = .error failure) :
    Probed [client.linksEntry (.ok response)] (.error (withoutLinks failure)) := by
  have missingIff := isMissingCapability_withoutLinks unread
  refine .single rfl rfl (fun _ => ?_) ?_
  · cases isMissing : (withoutLinks failure).isMissingCapability with
    | true => exact .inl ⟨rfl, response, rfl, missingIff.mp isMissing⟩
    | false => exact .inr ⟨_, rfl, isMissing⟩
  · rintro ⟨_, other, answered, notFound⟩
    obtain rfl := Except.ok.inj answered
    exact ⟨_, rfl, missingIff.mpr notFound⟩

/-- If it can be read, the second request depends on its links. -/
theorem probed_of_read {response : Http.Response} {links : List (String × String)}
    (read : decode capabilityLinksShape.reader response = .ok links) {exchanges : List Exchange}
    {answer : Except Failure EventSet}
    (leads : Leads
      (match linkOf? links "webhooks" with
        | none => .done (.error (.missingCapability "webhooks"))
        | some link => client.readSupported link) exchanges answer) :
    ∃ log, exchanges = log.map Entry.exchange ∧
      Probed (client.linksEntry (.ok response) :: log) answer := by
  have met : (client.linksEntry (.ok response)).isMet = true := by
    change (decode capabilityLinksShape.reader response).isOk = true
    rw [read]
    rfl
  have there : ¬(client.linksEntry (.ok response)).LacksCapabilities :=
    not_lacksCapabilities_of_isSuccess rfl (isSuccess_of_decode_eq_ok read)
  have alone (answer : Except Failure EventSet) :
      Probed [client.linksEntry (.ok response)] answer := by
    refine .single rfl rfl (fun unmet => ?_) fun isMissing => absurd isMissing there
    rw [met] at unmet
    cases unmet
  cases found : linkOf? links "webhooks" with
  | none =>
      rw [found] at leads
      obtain ⟨rfl, rfl⟩ := Dialogue.leads_done_iff.mp leads
      exact ⟨[], rfl, alone _⟩
  | some link =>
      rw [found] at leads
      rcases leads_readSupported leads with ⟨rfl, failure, rfl⟩ | ⟨second, rfl, reads, fails⟩
      · exact ⟨[], rfl, alone _⟩
      · exact ⟨[⟨.supported, second⟩], rfl, .double rfl rfl rfl reads met there fails⟩

/-- The supported events are asked for in two requests or fewer. -/
theorem probed_of_leads {exchanges : List Exchange} {answer : Except Failure EventSet}
    (leads : Leads client.supportedEvents exchanges answer) :
    ∃ log, exchanges = log.map Entry.exchange ∧ Probed log answer := by
  rw [supportedEvents_eq_send] at leads
  rcases leads_send leads with ⟨_, rfl, cause, rfl⟩ | ⟨came, rest, rfl, onward⟩
  · exact ⟨[], rfl, .unsent⟩
  · cases came with
    | error fault =>
        obtain ⟨rfl, rfl⟩ := Dialogue.leads_done_iff.mp onward
        exact ⟨[_], rfl, probed_of_fault client fault⟩
    | ok response =>
        cases read : decode capabilityLinksShape.reader response with
        | error failure =>
            simp only [received, read] at onward
            obtain ⟨rfl, rfl⟩ := Dialogue.leads_done_iff.mp onward
            exact ⟨[_], rfl, probed_of_unread client read⟩
        | ok links =>
            simp only [received, read] at onward
            obtain ⟨log, rfl, probed⟩ := probed_of_read read onward
            exact ⟨_ :: log, rfl, probed⟩

end Client

end WebhookSync.Server
