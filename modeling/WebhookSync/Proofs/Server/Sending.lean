import WebhookSync.Proofs.Transcript
import WebhookSync.Server.Client

/-!
# Requests and what they come to

Whatever a client does, it does by sending requests.  A request is not sent at all, or it is lost on
the way, or a response comes back (`Client.leads_send`), which may serve the purpose of the request
or not (`Entry.isMet`).
-/

namespace WebhookSync.Server

open Dialogue (Asks Leads)
open Gateway (Call)

/-- A request and what came back. -/
abbrev Exchange : Type :=
  Dialogue.Exchange Http.Request Http.Answer

/-- The exchanges that can change something. -/
def changing (exchanges : List Exchange) : List Exchange :=
  exchanges.filter fun exchange => exchange.question.method ≠ .get

theorem changing_append (first second : List Exchange) :
    changing (first ++ second) = changing first ++ changing second :=
  List.filter_append ..

theorem changing_eq_nil_iff {exchanges : List Exchange} :
    changing exchanges = [] ↔ ∀ exchange ∈ exchanges, exchange.question.method = .get := by
  simp [changing, List.filter_eq_nil_iff]

/-! ## What requests are for -/

/-- What a request is sent for. -/
inductive Purpose where
  /-- to see which documents tell what the server supports -/
  | capabilities
  /-- to see which events the server supports -/
  | supported
  /-- to see a page of a listing -/
  | page
  /-- to have a webhook stored -/
  | webhook
  /-- to have a webhook deleted -/
  | deletion
deriving DecidableEq, Repr

/-- Whether a response serves the purpose: it is one of success, and its body can be read if one is
expected. -/
def Purpose.isServedBy (response : Http.Response) : Purpose → Bool
  | capabilities => (Client.decode capabilityLinksShape.reader response).isOk
  | supported => (Client.decode supportedNamesShape.reader response).isOk
  | page => (Client.decode Page.shape.reader response).isOk
  | webhook => (Client.decode Webhook.reader response).isOk
  | deletion => response.isSuccess

/-- An exchange and what it was for. -/
structure Entry where
  purpose : Purpose
  exchange : Exchange

/-- Whether a response came back that serves the purpose of the request. -/
def Entry.isMet (entry : Entry) : Bool :=
  match entry.exchange.answer with
  | .error _ => false
  | .ok response => entry.purpose.isServedBy response

/-- The server has no document of its capabilities. -/
def Entry.LacksCapabilities (entry : Entry) : Prop :=
  entry.purpose = .capabilities ∧
    ∃ response, entry.exchange.answer = .ok response ∧ response.status = 404

namespace Client

variable {α β : Type} {client : Client}

/-! ## One request -/

/-- Whether requests to an address can be sent: a header can have the token, and the scheme is that
of web servers. -/
def CanSend (client : Client) (url : Url) : Prop :=
  (client.token.any fun token => !token.toList.all isHeaderChar) = false ∧
    (url.scheme = "http" ∨ url.scheme = "https")

/-- Whether requests can be sent depends on the scheme alone. -/
theorem CanSend.congr {url other : Url} (canSend : client.CanSend url)
    (same : other.scheme = url.scheme) : client.CanSend other :=
  ⟨canSend.1, by rw [same]; exact canSend.2⟩

/-- How a session goes on behind a request. -/
def received (next : Http.Response → Session (Except Failure α)) :
    Except Http.Fault Http.Response → Session (Except Failure α)
  | .error fault => .done (.error (.transport fault))
  | .ok response => next response

section Send

variable {method : Http.Method} {url : Url} {body : Option Json}
  {next : Http.Response → Session (Except Failure α)}

theorem send_of_canSend (canSend : client.CanSend url) :
    client.send method url body next =
      .ask (client.request method url body) (received next) := by
  unfold send
  rw [if_neg (by simp [canSend.1]), if_pos (by simpa using canSend.2)]
  refine congrArg (Dialogue.ask (client.request method url body)) (funext fun answer => ?_)
  cases answer <;> rfl

theorem send_of_not_canSend (cannotSend : ¬client.CanSend url) :
    ∃ cause, client.send method url body next = .done (.error (.transport cause)) := by
  unfold send
  split
  · exact ⟨_, rfl⟩
  · rename_i usable
    split
    · rename_i web
      exact absurd ⟨Bool.eq_false_iff.mpr usable, by simpa using web⟩ cannotSend
    · exact ⟨_, rfl⟩

/-- A request is sent unless it cannot be. -/
theorem leads_send {exchanges : List Exchange} {result : Except Failure α}
    (leads : Leads (client.send method url body next) exchanges result) :
    (¬client.CanSend url ∧ exchanges = [] ∧ ∃ cause, result = .error (.transport cause)) ∨
      ∃ answer rest, exchanges = ⟨client.request method url body, answer⟩ :: rest ∧
        Leads (received next answer) rest result := by
  by_cases canSend : client.CanSend url
  · rw [send_of_canSend canSend] at leads
    exact .inr (Dialogue.leads_ask_iff.mp leads)
  · obtain ⟨cause, unsent⟩ := send_of_not_canSend canSend
    rw [unsent] at leads
    obtain ⟨rfl, rfl⟩ := Dialogue.leads_done_iff.mp leads
    exact .inl ⟨canSend, rfl, cause, rfl⟩

theorem asks_send {Holds : Http.Request → Prop} (holds : Holds (client.request method url body))
    (onward : ∀ response, Asks Holds (next response)) :
    Asks Holds (client.send method url body next) := by
  by_cases canSend : client.CanSend url
  · rw [send_of_canSend canSend]
    refine .ask holds fun answer => ?_
    cases answer with
    | error fault => exact .done _
    | ok response => exact onward response
  · obtain ⟨cause, unsent⟩ := send_of_not_canSend canSend
    rw [unsent]
    exact .done _

end Send

/-! ## Reading responses -/

/-- A response that cannot be read says nothing about what the server can tell. -/
theorem isMissingCapability_of_decode_eq_error {reader : Json.Reader α} {response : Http.Response}
    {failure : Failure} (unread : decode reader response = .error failure) :
    failure.isMissingCapability = false := by
  unfold decode at unread
  split at unread
  · cases read : reader.whole (Text.decode response.body) with
    | error cause =>
        rw [read] at unread
        obtain rfl := Except.error.inj unread
        rfl
    | ok value =>
        rw [read] at unread
        cases unread
  · obtain rfl := Except.error.inj unread
    unfold refusal
    split <;> rfl

/-- Only a response of success is read. -/
theorem isSuccess_of_decode_eq_ok {reader : Json.Reader α} {response : Http.Response} {value : α}
    (read : decode reader response = .ok value) : response.isSuccess = true := by
  unfold decode at read
  split at read
  · assumption
  · cases read

/-- What is not found has the status that says so. -/
theorem status_of_decode_eq_notFound {reader : Json.Reader α} {response : Http.Response}
    {what : String} (missing : decode reader response = .error (.notFound what)) :
    response.status = 404 := by
  unfold decode at missing
  split at missing
  · cases read : reader.whole (Text.decode response.body) with
    | error cause =>
        rw [read] at missing
        cases Except.error.inj missing
    | ok value =>
        rw [read] at missing
        cases missing
  · unfold refusal at missing
    split at missing
    · assumption
    · cases Except.error.inj missing

theorem decode_of_status_eq_notFound (reader : Json.Reader α) {response : Http.Response}
    (notFound : response.status = 404) :
    decode reader response = .error (.notFound (Text.ofBody response.body)) := by
  have refused : response.isSuccess = false := by
    rw [Http.Response.isSuccess, notFound]
    rfl
  rw [decode, refused, if_neg Bool.false_ne_true, refusal, if_pos notFound]

/-! ## The requests behind calls -/

/-- The request by which the client asks for a page of a listing. -/
def pageRequest (client : Client) (repository : Repository) (filter : List Event)
    (start : UInt32) : Http.Request :=
  client.request .get (client.pageUrl repository filter start) none

/-- The request with which the client begins to find the answer to a call.  A change takes this
request only. -/
def requestFor (client : Client) : Call → Http.Request
  | .supportedEvents => client.request .get client.capabilitiesUrl none
  | .list repository filter => client.pageRequest repository filter 0
  | .create repository name events url =>
      client.request .post (client.webhooksUrl repository) (some (webhookBody name events url))
  | .update repository id name events url =>
      client.request .put (client.webhookUrl repository id) (some (webhookBody name events url))
  | .delete repository id => client.request .delete (client.webhookUrl repository id) none

/-- What the client begins to find the answer to a call for. -/
def purposeOf : Call → Purpose
  | .supportedEvents => .capabilities
  | .list _ _ => .page
  | .create _ _ _ _ | .update _ _ _ _ _ => .webhook
  | .delete _ _ => .deletion

/-- The entry of a call for which this came back. -/
def entryOf (client : Client) (call : Call) (answer : Except Http.Fault Http.Response) : Entry :=
  ⟨purposeOf call, client.requestFor call, answer⟩

end Client

end WebhookSync.Server
