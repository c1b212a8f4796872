import WebhookSync.Proofs.Server.Twins
import WebhookSync.Proofs.Server.Verdicts
import WebhookSync.Proofs.Url.Origins

/-!
# Who gets to see the token

Every request carries the token of the client.  All of them go to the origin of the base address,
with one exception: the request that follows the link for webhooks in the document of the server's
capabilities goes wherever that link leads, which is another origin only if the link itself brings
one (`token_follows_link`).
-/

namespace WebhookSync.Server

open Dialogue (Asks Leads transcript)
open Gateway (Call)

variable {client : Client} {exchanges : List Exchange}

/-- The exchange before this one has brought a link that leads to another origin, and the request
follows it. -/
def StraysBehind (client : Client) (earlier : List Exchange) (exchange : Exchange) : Prop :=
  ∃ before previous link, earlier = before ++ [previous] ∧
    previous.question = client.requestFor .supportedEvents ∧ LinksTo previous.answer link ∧
    Url.BringsOrigin link ∧ ∃ url, client.resolveLink link = .ok url ∧
      exchange.question = client.linkedRequest url

/-- Every request of these exchanges goes to the origin of the base address or follows a link. -/
def StaysOrStrays (client : Client) (exchanges : List Exchange) : Prop :=
  ∀ earlier exchange later, exchanges = earlier ++ exchange :: later →
    exchange.question.target.origin = client.base.origin ∨
      StraysBehind client earlier exchange

theorem StaysOrStrays.of_stays
    (stays : ∀ exchange ∈ exchanges, exchange.question.url.origin = client.base.origin) :
    StaysOrStrays client exchanges := by
  rintro earlier exchange later rfl
  exact .inl (stays exchange (by simp))

theorem StaysOrStrays.append {others : List Exchange} (first : StaysOrStrays client exchanges)
    (second : StaysOrStrays client others) : StaysOrStrays client (exchanges ++ others) := by
  intro earlier exchange later split
  -- A request that strays does so behind the exchange right before it, so in the same part.
  rcases List.append_eq_append_iff.mp split with
    ⟨between, isEarlier, isOthers⟩ | ⟨between, isExchanges, isBehind⟩
  · rcases second between exchange later isOthers with stays | strays
    · exact .inl stays
    · obtain ⟨before, previous, link, rfl, strays⟩ := strays
      rw [isEarlier]
      exact .inr ⟨exchanges ++ before, previous, link, (List.append_assoc ..).symm, strays⟩
  · cases between with
    | nil =>
        rw [List.nil_append] at isBehind
        rw [List.append_nil] at isExchanges
        rcases second [] exchange later isBehind.symm with stays | strays
        · exact .inl stays
        · obtain ⟨before, previous, link, isNil, _⟩ := strays
          simp at isNil
    | cons head between =>
        obtain ⟨rfl, _⟩ := List.cons.inj isBehind
        exact first earlier exchange between isExchanges

/-! ## Single calls -/

/-- Behind the answer with the links there may be one request, which follows a link. -/
theorem leads_afterLinks {came : Except Http.Fault Http.Response}
    {answer : Except Failure EventSet}
    (leads : Leads (client.afterLinks came) exchanges answer) :
    exchanges = [] ∨ ∃ link url second, LinksTo came link ∧ client.resolveLink link = .ok url ∧
      exchanges = [⟨client.linkedRequest url, second⟩] := by
  rcases client.afterLinks_cases came with
    ⟨failure, isDone, _⟩ | ⟨link, url, linksTo, resolved, _, isAsk⟩
  · rw [isDone] at leads
    exact .inl (Dialogue.leads_done_iff.mp leads).1
  · rw [isAsk] at leads
    obtain ⟨second, rest, rfl, ends⟩ := Dialogue.leads_ask_iff.mp leads
    have alone : rest = [] := by
      cases second with
      | error fault => exact (Dialogue.leads_done_iff.mp ends).1
      | ok response => exact (Dialogue.leads_done_iff.mp ends).1
    rw [alone]
    exact .inr ⟨link, url, second, linksTo, resolved, rfl⟩

/-- The request for the links is the first one for the supported events. -/
theorem leads_supportedEvents {answer : Except Failure EventSet}
    (leads : Leads client.supportedEvents exchanges answer) :
    exchanges = [] ∨ client.CanSend client.base ∧ ∃ came rest,
      exchanges = ⟨client.requestFor .supportedEvents, came⟩ :: rest ∧
        Leads (client.afterLinks came) rest answer := by
  by_cases canSend : client.CanSend client.base
  · rw [Client.supportedEvents_of_canSend canSend] at leads
    exact .inr ⟨canSend, Dialogue.leads_ask_iff.mp leads⟩
  · have cannotSend : ¬client.CanSend client.capabilitiesUrl :=
      fun canSendThere => canSend (canSendThere.congr rfl)
    obtain ⟨cause, isDone⟩ := Client.send_of_not_canSend cannotSend
    rw [Client.supportedEvents, isDone] at leads
    exact .inl (Dialogue.leads_done_iff.mp leads).1

/-- The link that is followed stays at the origin of the base address unless it brings another. -/
theorem staysOrStrays_of_linksTo (canSend : client.CanSend client.base)
    {came second : Except Http.Fault Http.Response} {link : String} {url : Url}
    (linksTo : LinksTo came link) (resolved : client.resolveLink link = .ok url) :
    StaysOrStrays client
      [⟨client.requestFor .supportedEvents, came⟩, ⟨client.linkedRequest url, second⟩] := by
  intro earlier exchange later isSplit
  cases earlier with
  | nil =>
      obtain ⟨rfl, _⟩ := List.cons.inj isSplit
      exact .inl rfl
  | cons first earlier =>
      obtain ⟨rfl, behindFirst⟩ := List.cons.inj isSplit
      cases earlier with
      | nil =>
          obtain ⟨rfl, _⟩ := List.cons.inj behindFirst
          by_cases brings : Url.BringsOrigin link
          · exact .inr ⟨[], _, link, rfl, rfl, linksTo, brings, url, resolved, rfl⟩
          · -- Links are joined to the base address with a slash at its end.
            have web : (client.base.extend [""]).IsWeb := canSend.2
            have stays : url.origin = (client.base.extend [""]).origin :=
              Url.origin_of_join web resolved brings
            exact .inl stays
      | cons second earlier =>
          obtain ⟨_, behindSecond⟩ := List.cons.inj behindFirst
          simp at behindSecond

theorem staysOrStrays_answer {call : Call} {answer : Gateway.Answer call}
    (leads : Leads (client.answer call) exchanges answer) : StaysOrStrays client exchanges := by
  cases mutates : call.isMutation with
  | true =>
      rcases Client.leads_answer_of_isMutation mutates leads with ⟨_, rfl, _⟩ | ⟨came, rfl, _⟩
      · exact .of_stays (List.forall_mem_nil _)
      · refine .of_stays (List.forall_mem_singleton.mpr ?_)
        cases call with
        | supportedEvents => cases mutates
        | list repository filter => cases mutates
        | create repository name events url => rfl
        | update repository id name events url => rfl
        | delete repository id => rfl
  | false =>
      cases call with
      | supportedEvents =>
          rcases leads_supportedEvents leads with rfl | ⟨canSend, came, rest, rfl, onward⟩
          · exact .of_stays (List.forall_mem_nil _)
          · rcases leads_afterLinks onward with rfl | ⟨link, url, second, linksTo, resolved, rfl⟩
            · exact .of_stays (List.forall_mem_singleton.mpr rfl)
            · exact staysOrStrays_of_linksTo canSend linksTo resolved
      | list repository filter =>
          obtain ⟨turns, rfl, _⟩ := Client.leads_listFrom leads
          refine .of_stays fun exchange member => ?_
          obtain ⟨turn, _, rfl⟩ := List.mem_map.mp member
          rfl
      | create repository name events url => cases mutates
      | update repository id name events url => cases mutates
      | delete repository id => cases mutates

/-! ## Whole sessions -/

theorem staysOrStrays_converse {α : Type} {session : Gateway.Session α} {result : α}
    (leads : Leads (client.converse session) exchanges result) :
    StaysOrStrays client exchanges := by
  induction session generalizing exchanges with
  | done value =>
      obtain ⟨rfl, _⟩ := Dialogue.leads_done_iff.mp leads
      exact .of_stays (List.forall_mem_nil _)
  | ask call next ih =>
      rw [Client.converse_ask] at leads
      obtain ⟨answer, before, after, rfl, first, onward⟩ := Dialogue.leads_bind_iff.mp leads
      exact (staysOrStrays_answer first).append (ih answer onward)

/-- Whatever the client sends carries its token. -/
theorem asks_converse_bearer {token : String} (has : client.token = some token) {α : Type}
    (session : Gateway.Session α) :
    Asks (fun request => ("authorization", "Bearer " ++ token) ∈ request.headers)
      (client.converse session) := by
  refine (Client.twins_converse (.refl client) session).asks ?_
  rintro request _ ⟨method, url, body, rfl, _⟩
  simp [Client.request, Client.tokenHeader, has]

/-- Where a link leads to a place that requests can be sent to, there is a request for the linked
document. -/
theorem transcript_supportedEvents_of_linksTo (canSend : client.CanSend client.base) {σ : Type}
    {server : (request : Http.Request) → σ → Http.Answer request × σ} {state : σ} {link : String}
    {url : Url} (linksTo : LinksTo (server (client.requestFor .supportedEvents) state).1 link)
    (resolved : client.resolveLink link = .ok url) (canSendOn : client.CanSend url) :
    let first := server (client.requestFor .supportedEvents) state
    transcript server (client.converse (.ask .supportedEvents .done)) state =
      [⟨client.requestFor .supportedEvents, first.1⟩,
        ⟨client.linkedRequest url, (server (client.linkedRequest url) first.2).1⟩] := by
  intro first
  have ends (answer : Except Http.Fault Http.Response) (behind : σ) :
      transcript server (Client.afterNames answer) behind = [] := by
    cases answer <;> rfl
  have asked : transcript server client.supportedEvents state =
      [⟨client.requestFor .supportedEvents, first.1⟩,
        ⟨client.linkedRequest url, (server (client.linkedRequest url) first.2).1⟩] := by
    rw [Client.supportedEvents_of_canSend canSend]
    simp only [transcript, first, Client.afterLinks_of_linksTo linksTo,
      Client.readSupported_of_canSend resolved canSendOn, ends]
  rw [Client.converse_ask, Dialogue.transcript_bind]
  exact (congrArg (· ++ []) asked).trans (List.append_nil _)

/-- The client of an address has the token that it is given, unless that is empty. -/
theorem Client.token_of_ofAddress {address token : String} (given : token ≠ "")
    (made : Client.ofAddress address (some token) = .ok client) : client.token = some token := by
  unfold Client.ofAddress at made
  split at made
  · cases made
  · split at made
    · cases made
    · obtain rfl := Except.ok.inj made
      simp [Option.filter, given]

/-- Every request carries the token, and goes to the origin of the base address or follows a link
that brings another origin. -/
theorem token_follows_link (address token : String) (given : token ≠ "") (client : Client)
    (made : Client.ofAddress address (some token) = .ok client) {α σ : Type}
    (session : Gateway.Session α)
    (server : (request : Http.Request) → σ → Http.Answer request × σ) (state : σ) :
    ∀ earlier exchange later,
      transcript server (client.converse session) state = earlier ++ exchange :: later →
      ("authorization", "Bearer " ++ token) ∈ exchange.question.headers ∧
        (exchange.question.target.origin = client.base.origin ∨
          StraysBehind client earlier exchange) := by
  intro earlier exchange later isSplit
  have leads := Dialogue.leads_transcript server (client.converse session) state
  have has := Client.token_of_ofAddress given made
  refine ⟨(asks_converse_bearer has session).of_leads leads exchange ?_,
    staysOrStrays_converse leads earlier exchange later isSplit⟩
  rw [isSplit]
  simp

/-- A server can link to another host. -/
theorem exists_linkedRequest_elsewhere :
    ∃ (client : Client) (answers : List (Except Http.Fault Http.Response)) (url : Url)
      (first second : Except Http.Fault Http.Response),
      Client.ofAddress "http://git.example.com" (some "secret") = .ok client ∧
        url.origin ≠ client.base.origin ∧
        transcript recite (client.converse (.ask .supportedEvents .done)) answers =
          [⟨client.requestFor .supportedEvents, first⟩, ⟨client.linkedRequest url, second⟩] := by
  let base : Url :=
    ⟨"http", "", none, some (.name "git.example.com"), none, .segments [""], none, none⟩
  let elsewhere : Url :=
    ⟨"http", "", none, some (.name "other.example.com"), none, .segments ["caps"], none, none⟩
  let client : Client := ⟨base, some "secret"⟩
  let links := success ("\x7b\"capabilities\":\x7b\"webhooks\":" ++
    "\"http://other.example.com/caps\"\x7d\x7d")
  have made : Client.ofAddress "http://git.example.com" (some "secret") = .ok client := by
    have parsed : Url.parse "http://git.example.com" = .ok base := by decide +kernel
    rw [Client.ofAddress, parsed]
    rfl
  have linksTo : LinksTo links "http://other.example.com/caps" :=
    ⟨_, [("webhooks", "http://other.example.com/caps")], rfl, by decide +kernel, [], [], rfl,
      fun _ => List.not_mem_nil⟩
  have resolved : client.resolveLink "http://other.example.com/caps" = .ok elsewhere := by
    decide +kernel
  have canSend : client.CanSend client.base := ⟨rfl, .inl rfl⟩
  have canSendOn : client.CanSend elsewhere := ⟨rfl, .inl rfl⟩
  exact ⟨client, [links], elsewhere, _, _, made, by decide,
    transcript_supportedEvents_of_linksTo canSend linksTo resolved canSendOn⟩

/-- The second request of a client whose server links to another host. -/
theorem token_follows_link_elsewhere :
    ∃ (client : Client) (answers : List (Except Http.Fault Http.Response))
      (first second : Exchange),
      "secret" ≠ "" ∧ Client.ofAddress "http://git.example.com" (some "secret") = .ok client ∧
        transcript recite (client.converse (.ask .supportedEvents .done)) answers =
          [first] ++ second :: [] ∧
        ("authorization", "Bearer " ++ "secret") ∈ second.question.headers ∧
        (second.question.target.origin = client.base.origin ∨
          StraysBehind client [first] second) := by
  obtain ⟨client, answers, _, _, _, made, _, asked⟩ := exists_linkedRequest_elsewhere
  exact ⟨client, answers, _, _, by decide, made, asked,
    token_follows_link _ "secret" (by decide) client made (.ask .supportedEvents .done) recite
      answers [_] _ [] asked⟩

/-- The token does not always stay with the configured server. -/
theorem token_leaves_origin :
    ¬∀ (address token : String) (client : Client), token ≠ "" →
      Client.ofAddress address (some token) = .ok client →
      ∀ (α : Type) (session : Gateway.Session α)
        (answers : List (Except Http.Fault Http.Response)),
        ∀ exchange ∈ transcript recite (client.converse session) answers,
          ("authorization", "Bearer " ++ token) ∈ exchange.question.headers →
          exchange.question.target.origin = client.base.origin := by
  intro stays
  obtain ⟨client, answers, url, first, second, made, elsewhere, asked⟩ :=
    exists_linkedRequest_elsewhere
  have given : "secret" ≠ "" := by decide
  have has := Client.token_of_ofAddress given made
  refine elsewhere (stays _ "secret" client given made _ (.ask .supportedEvents .done) answers
    ⟨client.linkedRequest url, second⟩ ?_ ?_)
  · rw [asked]
    simp
  · simp [Client.linkedRequest, Client.request, Client.tokenHeader, has]

end WebhookSync.Server
