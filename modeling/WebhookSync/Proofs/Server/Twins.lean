import WebhookSync.Proofs.Server.Conversation

/-!
# Two clients of one server

Two clients that differ in their tokens lead the same sessions in the same way: they send requests
in pairs, made in the same way by each, and go on alike whatever comes back for both
(`Client.twins_converse`).  A server that answers such pairs alike cannot bring them apart.
-/

namespace WebhookSync.Server

open Dialogue (Asks transcript)
open Gateway (Call)

variable {α β : Type} {Alike : Http.Request → Http.Request → Prop}

/-- Two sessions that ask alike, and go on as twins behind the same answer. -/
inductive Twins (Alike : Http.Request → Http.Request → Prop) : Session α → Session α → Prop where
  | done (result : α) : Twins Alike (.done result) (.done result)
  | ask {question other : Http.Request}
      {next nextToo : Except Http.Fault Http.Response → Session α} (alike : Alike question other)
      (onward : ∀ answer, Twins Alike (next answer) (nextToo answer)) :
      Twins Alike (.ask question next) (.ask other nextToo)

namespace Twins

theorem bind {session twin : Session α} {next nextToo : α → Session β}
    (twins : Twins Alike session twin)
    (onward : ∀ result, Twins Alike (next result) (nextToo result)) :
    Twins Alike (session.bind next) (twin.bind nextToo) := by
  induction twins with
  | done result => exact onward result
  | ask alike _ ih => exact .ask alike ih

/-- What holds of the requests of one twin holds of all that it asks. -/
theorem asks {Holds : Http.Request → Prop} {session twin : Session α}
    (twins : Twins Alike session twin) (holds : ∀ question other, Alike question other →
      Holds question) : Asks Holds session := by
  induction twins with
  | done result => exact .done result
  | ask alike _ ih => exact .ask (holds _ _ alike) ih

/-- Twins that are answered alike come to the same result and have exchanged alike. -/
theorem run {σ : Type} {session twin : Session α} (twins : Twins Alike session twin)
    {server : (request : Http.Request) → σ → Http.Answer request × σ}
    (same : ∀ question other, Alike question other → ∀ state,
      server question state = server other state) (state : σ) :
    session.run server state = twin.run server state ∧
      List.Forall₂ (fun exchange other : Exchange =>
          Alike exchange.question other.question ∧ exchange.answer = other.answer)
        (transcript server session state) (transcript server twin state) := by
  induction twins generalizing state with
  | done result => exact ⟨rfl, .nil⟩
  | ask alike _ ih =>
      have sameAnswer := same _ _ alike state
      obtain ⟨sameRun, sameExchanges⟩ := ih (server _ state).1 (server _ state).2
      simp only [Dialogue.run_ask, transcript, sameAnswer]
      rw [sameAnswer] at sameRun sameExchanges
      exact ⟨sameRun, .cons ⟨alike, rfl⟩ sameExchanges⟩

end Twins

namespace Client

/-- Two clients of one server of which either both can send their tokens or none can. -/
structure IsTwin (client other : Client) : Prop where
  sameBase : client.base = other.base
  sameUse : (client.token.any fun token => !token.toList.all isHeaderChar) =
    other.token.any fun token => !token.toList.all isHeaderChar

theorem IsTwin.refl (client : Client) : client.IsTwin client :=
  ⟨rfl, rfl⟩

/-- Requests that two clients make in the same way. -/
def SameRequest (client other : Client) (request requestToo : Http.Request) : Prop :=
  ∃ method url body,
    request = client.request method url body ∧ requestToo = other.request method url body

variable {client other : Client}

theorem twins_send (twin : client.IsTwin other) {method : Http.Method} {url : Url}
    {body : Option Json} {next nextToo : Http.Response → Session (Except Failure α)}
    (onward : ∀ response,
      Twins (SameRequest client other) (next response) (nextToo response)) :
    Twins (SameRequest client other) (client.send method url body next)
      (other.send method url body nextToo) := by
  unfold send
  rw [twin.sameUse]
  split
  · exact .done _
  · split
    · refine .ask ⟨method, url, body, rfl, rfl⟩ fun answer => ?_
      cases answer with
      | error fault => exact .done _
      | ok response => exact onward response
    · exact .done _

theorem IsTwin.webhooksUrl_eq (twin : client.IsTwin other) (repository : Repository) :
    client.webhooksUrl repository = other.webhooksUrl repository := by
  rw [webhooksUrl, twin.sameBase]
  rfl

theorem IsTwin.webhookUrl_eq (twin : client.IsTwin other) (repository : Repository) (id : Int64) :
    client.webhookUrl repository id = other.webhookUrl repository id := by
  rw [webhookUrl, twin.webhooksUrl_eq]
  rfl

theorem IsTwin.resolveLink_eq (twin : client.IsTwin other) (link : String) :
    client.resolveLink link = other.resolveLink link := by
  rw [resolveLink, twin.sameBase]
  rfl

/-! ## Calls and sessions -/

theorem twins_listFrom (twin : client.IsTwin other) (repository : Repository)
    (filter : List Event) (start : UInt32) (before : List Webhook) :
    Twins (SameRequest client other) (client.listFrom repository filter start before)
      (other.listFrom repository filter start before) := by
  rw [listFrom, listFrom, pageUrl, twin.webhooksUrl_eq]
  refine twins_send twin fun response => ?_
  split
  · exact .done _
  · split
    · exact .done _
    · split
      · exact .done _
      · split
        · exact twins_listFrom twin repository filter _ _
        · exact .done _
termination_by UInt32.size - start.toNat
decreasing_by
  rename_i grows
  have := UInt32.lt_iff_toNat_lt.mp grows
  have := UInt32.toNat_lt start
  simp only [UInt32.size]
  omega

theorem twins_readSupported (twin : client.IsTwin other) (link : String) :
    Twins (SameRequest client other) (client.readSupported link) (other.readSupported link) := by
  rw [readSupported, readSupported, twin.resolveLink_eq]
  cases other.resolveLink link with
  | error fault => exact .done _
  | ok url => exact twins_send twin fun response => .done _

theorem twins_supportedEvents (twin : client.IsTwin other) :
    Twins (SameRequest client other) client.supportedEvents other.supportedEvents := by
  have sameUrl : client.capabilitiesUrl = other.capabilitiesUrl := by
    rw [capabilitiesUrl, twin.sameBase]
    rfl
  rw [supportedEvents_eq_send, supportedEvents_eq_send, sameUrl]
  refine twins_send twin fun response => ?_
  cases decode capabilityLinksShape.reader response with
  | error failure => exact .done _
  | ok links =>
      dsimp only
      cases linkOf? links "webhooks" with
      | none => exact .done _
      | some link => exact twins_readSupported twin link

theorem twins_answer (twin : client.IsTwin other) (call : Call) :
    Twins (SameRequest client other) (client.answer call) (other.answer call) := by
  cases call with
  | supportedEvents => exact twins_supportedEvents twin
  | list repository filter => exact twins_listFrom twin repository filter 0 []
  | create repository name events url =>
      rw [answer, answer, twin.webhooksUrl_eq]
      exact twins_send twin fun response => .done _
  | update repository id name events url =>
      rw [answer, answer, twin.webhookUrl_eq]
      exact twins_send twin fun response => .done _
  | delete repository id =>
      rw [answer, answer, twin.webhookUrl_eq]
      refine twins_send twin fun response => ?_
      split
      · exact .done _
      · exact .done _

/-- Twins lead any session with the server in the same way. -/
theorem twins_converse (twin : client.IsTwin other) (session : Gateway.Session α) :
    Twins (SameRequest client other) (client.converse session) (other.converse session) := by
  induction session with
  | done result => exact .done result
  | ask call next ih => exact (twins_answer twin call).bind ih

end Client

end WebhookSync.Server
