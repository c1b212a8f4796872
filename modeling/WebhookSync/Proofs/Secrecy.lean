import WebhookSync.Proofs.Disclosure
import WebhookSync.Reconcile.Report
import WebhookSync.Settings.Basic

/-!
# The token shows in one header only

Two clients with the same settings but for their tokens do the same tasks with a server that does
not look at who asks.  Every task comes to the same result, and the requests are the same but for
the header that tells who asks.  Nor do the messages in which settings and clients are taken apart
show a token (`token_shows_only_in_authorization`).
-/

namespace WebhookSync.Server

open Dialogue (transcript)
open Gateway (Call)

/-! ## Tasks -/

/-- What a client can be asked to do at a time. -/
inductive Task where
  | call (asked : Call)
  | reconcile (wanted : Subscription)
  | preview (wanted : Subscription)
  | listOwned (wanted : Subscription)
  | probe

/-- What a task comes to. -/
abbrev Task.Result : Task → Type
  | .call asked => Gateway.Answer asked
  | .reconcile _ => Except Failure (Option Webhook)
  | .preview _ => Except Preview.Fault Report
  | .listOwned _ => Except Failure (List Webhook)
  | .probe => Except Setback CapabilityReport

/-- The calls by which a task is done. -/
def Task.session : (task : Task) → Gateway.Session task.Result
  | .call asked => .ask asked .done
  | .reconcile wanted => WebhookSync.reconcile wanted
  | .preview wanted => WebhookSync.preview wanted
  | .listOwned wanted => Reconcile.listOwned wanted
  | .probe => WebhookSync.probe

/-- A task that was done, what it came to, and what was exchanged for it. -/
structure Deed where
  task : Task
  result : task.Result
  exchanges : List Exchange

/-- Do tasks one after the other. -/
def Client.doAll {σ : Type} (client : Client)
    (server : (request : Http.Request) → σ → Http.Answer request × σ) :
    List Task → σ → List Deed × σ
  | [], state => ([], state)
  | task :: rest, state =>
      let session := client.converse task.session
      let done := session.run server state
      let others := client.doAll server rest done.2
      (⟨task, done.1, transcript server session state⟩ :: others.1, others.2)

/-! ## Requests without the token -/

/-- The request without the headers that tell who asks. -/
def anonymous (request : Http.Request) : Http.Request :=
  { request with headers := request.headers.filter fun header => header.1 ≠ "authorization" }

/-- The headers of a request that tell who asks. -/
def credentials (request : Http.Request) : List (String × String) :=
  request.headers.filter fun header => header.1 = "authorization"

/-- The answers do not depend on who asks. -/
def Impartial {σ : Type} (server : (request : Http.Request) → σ → Http.Answer request × σ) : Prop :=
  ∀ request other, anonymous request = anonymous other →
    ∀ state, server request state = server other state

/-- Two exchanges are the same, but each request was made with a token of its own. -/
structure SameButToken (token tokenToo : String) (exchange other : Exchange) : Prop where
  sameRequest : anonymous exchange.question = anonymous other.question
  sameAnswer : exchange.answer = other.answer
  ownToken : ∃ others,
    credentials exchange.question = others ++ [("authorization", "Bearer " ++ token)] ∧
      credentials other.question = others ++ [("authorization", "Bearer " ++ tokenToo)]

/-- A task was done twice with the same result and by the same exchanges, but with two tokens. -/
structure SameDeed (token tokenToo : String) (deed other : Deed) : Prop where
  sameResult : (⟨deed.task, deed.result⟩ : (task : Task) × task.Result) = ⟨other.task, other.result⟩
  sameExchanges : List.Forall₂ (SameButToken token tokenToo) deed.exchanges other.exchanges

section Requests

variable {client other : Client} {token tokenToo : String} (has : client.token = some token)

include has

theorem anonymous_request (method : Http.Method) (url : Url) (body : Option Json) :
    anonymous (client.request method url body) =
      { method := method, url := url, body := (body.map Json.compact).getD "",
        headers := [("accept", "application/json"), ("user-agent", Client.agent)] ++
          if body.isSome then [("content-type", "application/json")] else [] } := by
  have noBasic :
      (Client.basicHeader url).filter (fun header => header.1 ≠ "authorization") = [] := by
    unfold Client.basicHeader
    split
    · rfl
    · dsimp only
      split <;> rfl
  unfold anonymous Client.request
  simp only [List.filter_append, noBasic, has]
  cases body <;> rfl

theorem credentials_request (method : Http.Method) (url : Url) (body : Option Json) :
    credentials (client.request method url body) =
      Client.basicHeader url ++ [("authorization", "Bearer " ++ token)] := by
  have allBasic : (Client.basicHeader url).filter (fun header => header.1 = "authorization") =
      Client.basicHeader url := by
    unfold Client.basicHeader
    split
    · rfl
    · dsimp only
      split <;> rfl
  unfold credentials Client.request
  simp only [List.filter_append, allBasic, has]
  cases body <;> simp [Client.tokenHeader]

end Requests

/-! ## Two clients -/

/-- The client of the server in settings. -/
def Client.ofSettings (settings : ServerSettings) : Except Failure Client :=
  ofAddress settings.baseUrl settings.token

/-- A token that a client uses and a header can have. -/
structure IsToken (token : String) : Prop where
  given : token ≠ ""
  sendable : token.toList.all Client.isHeaderChar = true

/-- Clients of one server with tokens that can be sent. -/
structure HaveTokens (client other : Client) (token tokenToo : String) : Prop where
  twins : client.IsTwin other
  first : client.token = some token
  second : other.token = some tokenToo

variable {client other : Client} {token tokenToo : String} {σ : Type}
  {server : (request : Http.Request) → σ → Http.Answer request × σ}

/-- With two tokens in the same settings there is no client for the same reason, or there are two
that differ in nothing else. -/
theorem ofSettings_withToken (settings : ServerSettings) (isToken : IsToken token)
    (isTokenToo : IsToken tokenToo) :
    (∃ failure, Client.ofSettings (settings.withToken token) = .error failure ∧
        Client.ofSettings (settings.withToken tokenToo) = .error failure) ∨
      ∃ client other, Client.ofSettings (settings.withToken token) = .ok client ∧
        Client.ofSettings (settings.withToken tokenToo) = .ok other ∧
        HaveTokens client other token tokenToo := by
  have keeps {text : String} (isText : IsToken text) :
      Option.filter (fun given => decide (given ≠ "")) (some text) = some text := by
    simp [Option.filter, isText.given]
  simp only [Client.ofSettings, Client.ofAddress, ServerSettings.withToken]
  cases Url.parse settings.baseUrl with
  | error fault => exact .inl ⟨_, rfl, rfl⟩
  | ok base =>
      dsimp only
      split
      · exact .inl ⟨_, rfl, rfl⟩
      · refine .inr ⟨_, _, rfl, rfl, ⟨rfl, ?_⟩, keeps isToken, keeps isTokenToo⟩
        rw [keeps isToken, keeps isTokenToo]
        simp [isToken.sendable, isTokenToo.sendable]

namespace HaveTokens

theorem describe_eq (tokens : HaveTokens client other token tokenToo) :
    client.describe = other.describe := by
  unfold Client.describe
  rw [tokens.first, tokens.second, tokens.twins.sameBase]
  rfl

theorem sameButToken (tokens : HaveTokens client other token tokenToo) {exchange twin : Exchange}
    (alike : client.SameRequest other exchange.question twin.question)
    (sameAnswer : exchange.answer = twin.answer) : SameButToken token tokenToo exchange twin := by
  obtain ⟨method, url, body, isFirst, isSecond⟩ := alike
  refine ⟨?_, sameAnswer, Client.basicHeader url, ?_, ?_⟩
  · rw [isFirst, isSecond, anonymous_request tokens.first, anonymous_request tokens.second]
  · rw [isFirst, credentials_request tokens.first]
  · rw [isSecond, credentials_request tokens.second]

/-- An impartial server answers the two clients alike. -/
theorem answers_eq (tokens : HaveTokens client other token tokenToo)
    (impartial : Impartial server) (request twin : Http.Request)
    (alike : client.SameRequest other request twin) (state : σ) :
    server request state = server twin state := by
  obtain ⟨method, url, body, rfl, rfl⟩ := alike
  refine impartial _ _ ?_ state
  rw [anonymous_request tokens.first, anonymous_request tokens.second]

/-- One task is done alike by the two clients, and the server is the same behind it. -/
theorem sameDeed (tokens : HaveTokens client other token tokenToo) (impartial : Impartial server)
    (task : Task) (state : σ) :
    let deed (doer : Client) : Deed :=
      ⟨task, ((doer.converse task.session).run server state).1,
        transcript server (doer.converse task.session) state⟩
    ((client.converse task.session).run server state).2 =
        ((other.converse task.session).run server state).2 ∧
      SameDeed token tokenToo (deed client) (deed other) := by
  obtain ⟨sameRun, sameExchanges⟩ :=
    (Client.twins_converse tokens.twins task.session).run (tokens.answers_eq impartial) state
  refine ⟨congrArg Prod.snd sameRun, ?_, sameExchanges.imp fun exchange twin alike =>
    tokens.sameButToken alike.1 alike.2⟩
  dsimp only
  rw [sameRun]

/-- Task after task is done alike by the two clients. -/
theorem sameDeeds (tokens : HaveTokens client other token tokenToo) (impartial : Impartial server)
    (tasks : List Task) (state : σ) :
    (client.doAll server tasks state).2 = (other.doAll server tasks state).2 ∧
      List.Forall₂ (SameDeed token tokenToo) (client.doAll server tasks state).1
        (other.doAll server tasks state).1 := by
  induction tasks generalizing state with
  | nil => exact ⟨rfl, .nil⟩
  | cons task rest ih =>
      obtain ⟨sameState, alike⟩ := tokens.sameDeed impartial task state
      obtain ⟨sameEnd, allAlike⟩ := ih ((client.converse task.session).run server state).2
      simp only [Client.doAll]
      rw [← sameState]
      exact ⟨sameEnd, .cons alike allAlike⟩

end HaveTokens

/-- Of two runs with the same settings, an impartial server and the same tasks, but with different
tokens, nothing differs but the header with the token. -/
theorem token_shows_only_in_authorization (settings : ServerSettings) (token tokenToo : String)
    (isToken : IsToken token) (isTokenToo : IsToken tokenToo) :
    (settings.withToken token).describe = (settings.withToken tokenToo).describe ∧
    ((∃ failure, Client.ofSettings (settings.withToken token) = .error failure ∧
        Client.ofSettings (settings.withToken tokenToo) = .error failure) ∨
      ∃ client other, Client.ofSettings (settings.withToken token) = .ok client ∧
        Client.ofSettings (settings.withToken tokenToo) = .ok other ∧
        client.describe = other.describe ∧
        ∀ {σ : Type} (server : (request : Http.Request) → σ → Http.Answer request × σ),
          Impartial server → ∀ (tasks : List Task) (state : σ),
            (client.doAll server tasks state).2 = (other.doAll server tasks state).2 ∧
            List.Forall₂ (SameDeed token tokenToo) (client.doAll server tasks state).1
              (other.doAll server tasks state).1) := by
  refine ⟨rfl, ?_⟩
  rcases ofSettings_withToken settings isToken isTokenToo with
    isError | ⟨client, other, isClient, isOther, tokens⟩
  · exact .inl isError
  · exact .inr ⟨client, other, isClient, isOther, tokens.describe_eq,
      fun server impartial => tokens.sameDeeds impartial⟩

/-- A listing and a probe with two tokens. -/
theorem token_shows_only_in_authorization_listing_probe :
    let settings := ServerSettings.ofUrl "http://git.example.com"
    let tasks : List Task := [.call (.list ⟨"P", "r"⟩ []), .probe]
    let answers := [success "\x7b\"values\":[]\x7d", success "\x7b\"capabilities\":\x7b\x7d\x7d"]
    IsToken "one" ∧ IsToken "two" ∧ Impartial recite ∧
      ∃ client other, Client.ofSettings (settings.withToken "one") = .ok client ∧
        Client.ofSettings (settings.withToken "two") = .ok other ∧
        (client.doAll recite tasks answers).1.map (·.exchanges.length) = [1, 1] ∧
        List.Forall₂ (SameDeed "one" "two") (client.doAll recite tasks answers).1
          (other.doAll recite tasks answers).1 := by
  intro settings tasks answers
  have isOne : IsToken "one" := ⟨by decide, by decide⟩
  have isTwo : IsToken "two" := ⟨by decide, by decide⟩
  have impartial : Impartial recite := by
    intro request other same state
    have sameUrl : (anonymous request).url = (anonymous other).url := by rw [same]
    change request.url = other.url at sameUrl
    cases state with
    | nil => simp only [recite, sameUrl]
    | cons answer rest => rfl
  let base : Url :=
    ⟨"http", "", none, some (.name "git.example.com"), none, .segments [""], none, none⟩
  have parsed : Url.parse settings.baseUrl = .ok base := by decide +kernel
  have made (token : String) : Client.ofSettings (settings.withToken token) =
      .ok ⟨base, (some token).filter (· ≠ "")⟩ := by
    rw [Client.ofSettings, Client.ofAddress, ServerSettings.withToken, parsed]
    rfl
  rcases (token_shows_only_in_authorization settings "one" "two" isOne isTwo).2 with
    ⟨failure, isError, _⟩ | ⟨client, other, isClient, isOther, _, alike⟩
  · rw [made] at isError
    cases isError
  · refine ⟨isOne, isTwo, impartial, client, other, isClient, isOther, ?_,
      (alike recite impartial tasks answers).2⟩
    obtain rfl := Except.ok.inj ((made "one").symm.trans isClient)
    decide +kernel

end WebhookSync.Server
