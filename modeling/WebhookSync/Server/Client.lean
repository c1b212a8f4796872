import WebhookSync.Gateway.Call
import WebhookSync.Json.Printer
import WebhookSync.Server.Documents
import WebhookSync.Text.Base64
import WebhookSync.Url.Extend

/-!
# A gateway behind a server

The client answers each call of a gateway by exchanges with a server.  Listings come in pages, each
of which tells where the next one starts; starts only grow, so a listing ends.  What the server
supports stands in a document of its own, to which the document of its capabilities links.
-/

namespace WebhookSync.Server

open Gateway (Call)

/-- Where the server is and how to be recognised there. -/
structure Client where
  base : Url
  token : Option String

/-- A dialogue with a server. -/
abbrev Session (α : Type) : Type :=
  Dialogue Http.Request Http.Answer α

namespace Client

/-- The client of a server's address.  An empty token is none. -/
def ofAddress (address : String) (token : Option String) : Except Failure Client :=
  match Url.parse address with
  | .error fault => .error (.invalidUrl fault)
  | .ok base =>
      if base.isOpaque then .error (.opaqueServer base.text)
      else .ok ⟨base, token.filter (· ≠ "")⟩

/-- The client taken apart in a message; a token is not shown. -/
def describe (client : Client) : String :=
  let token := if client.token.isSome then "Some(\"[REDACTED]\")" else "None"
  "RestWebhookGateway \x7b base_url: " ++ client.base.describe ++ ", token: " ++ token ++ " \x7d"

/-! ## Addresses -/

/-- Where the webhooks of a repository are. -/
def webhooksUrl (client : Client) (repository : Repository) : Url :=
  client.base.extend
    ["rest", "api", "1.0", "projects", repository.projectKey, "repos", repository.slug, "webhooks"]

/-- Where a webhook is. -/
def webhookUrl (client : Client) (repository : Repository) (id : Int64) : Url :=
  (client.webhooksUrl repository).push [toString id.toInt]

/-- Where a page of a listing is. -/
def pageUrl (client : Client) (repository : Repository) (filter : List Event) (start : UInt32) :
    Url :=
  (client.webhooksUrl repository).withPairs
    (filter.map (fun event => ("event", event.name)) ++ [("start", toString start.toNat)])

/-- Where the server tells what it can do. -/
def capabilitiesUrl (client : Client) : Url :=
  client.base.extend ["rest", "capabilities"]

/-- Where a link of the server leads.  A relative link begins below the path of the base
address. -/
def resolveLink (client : Client) (link : String) : Except Url.Fault Url :=
  (client.base.extend [""]).join link

/-! ## Requests -/

/-- Whether a header can have the character. -/
def isHeaderChar (c : Char) : Bool :=
  c == '\t' || 0x20 ≤ c.toNat && c.toNat ≠ 0x7F

/-- The bytes that a text of an address stands for, if they are characters. -/
def plainBytes? (text : String) : Option (List UInt8) :=
  let bytes := Url.decodeBytes text.toList
  if (Text.decode bytes).all Option.isSome then some bytes else none

/-- The header that tells who asks, from the user information of an address. -/
def basicHeader (url : Url) : List (String × String) :=
  match plainBytes? url.username with
  | none => []
  | some username =>
      let password := url.password.bind plainBytes?
      if username.isEmpty && password.isNone then []
      else
        let credentials := username ++ 0x3A :: password.getD []
        [("authorization", "Basic " ++ String.ofList (Text.base64 credentials))]

/-- The header with a token. -/
def tokenHeader (token : Option String) : List (String × String) :=
  match token with
  | none => []
  | some token => [("authorization", "Bearer " ++ token)]

/-- The name and version under which the client presents itself. -/
def agent : String :=
  "hookbridge/0.1.0"

/-- A request with everything that goes along with it. -/
def request (client : Client) (method : Http.Method) (url : Url) (body : Option Json) :
    Http.Request where
  method := method
  url := url
  headers :=
    [("accept", "application/json"), ("user-agent", agent)] ++ basicHeader url ++
      tokenHeader client.token ++
      (if body.isSome then [("content-type", "application/json")] else [])
  body := (body.map Json.compact).getD ""

/-- The address of a request in a message. -/
def shownUrl (url : Url) : String :=
  { url with username := "", password := none : Url }.text

/-- Send a request and go on with the response.  A token that no header can have and a scheme other
than those of web servers are found out before anything is sent.  The request is what is handed to
the transport.  What the transport does until there is a response, such as following redirects,
encrypting and waiting, is part of the server that a dialogue is led with. -/
def send {α : Type} (client : Client) (method : Http.Method) (url : Url) (body : Option Json)
    (next : Http.Response → Session (Except Failure α)) : Session (Except Failure α) :=
  if client.token.any fun token => !token.toList.all isHeaderChar then
    .done (.error (.transport .invalidHeader))
  else if url.scheme = "http" || url.scheme = "https" then
    .ask (client.request method url body) fun
      | .error fault => .done (.error (.transport fault))
      | .ok response => next response
  else .done (.error (.transport (.schemeNotAllowed (shownUrl url))))

/-- A response that is none of success. -/
def refusal (response : Http.Response) : Failure :=
  if response.status = 404 then .notFound (Text.ofBody response.body)
  else .refused response.status (Text.ofBody response.body)

/-- The value in the body of a response. -/
def decode {α : Type} (reader : Json.Reader α) (response : Http.Response) : Except Failure α :=
  if response.isSuccess then
    (reader.whole (Text.decode response.body)).mapError Failure.unreadable
  else .error (refusal response)

/-! ## Calls -/

/-- The webhooks of all pages from one on, behind those that came before. -/
def listFrom (client : Client) (repository : Repository) (filter : List Event) (start : UInt32)
    (before : List Webhook) : Session (Except Failure (List Webhook)) :=
  client.send .get (client.pageUrl repository filter start) none fun response =>
    match decode Page.shape.reader response with
    | .error failure => .done (.error failure)
    | .ok page =>
        if page.isLast then .done (.ok (before ++ page.values))
        else
          match page.nextStart with
          | none => .done (.error (.brokenPages start none))
          | some next =>
              if start < next then client.listFrom repository filter next (before ++ page.values)
              else .done (.error (.brokenPages start (some next)))
termination_by UInt32.size - start.toNat
decreasing_by
  rename_i grows
  have := UInt32.lt_iff_toNat_lt.mp grows
  have := next.toNat_lt
  simp only [UInt32.size]
  omega

/-- Send a webhook and read it back. -/
def sendWebhook (client : Client) (method : Http.Method) (url : Url) (body : Json) :
    Session (Except Failure Webhook) :=
  client.send method url (some body) fun response => .done (decode Webhook.reader response)

/-- Read the events that the linked document names. -/
def readSupported (client : Client) (link : String) : Session (Except Failure EventSet) :=
  match client.resolveLink link with
  | .error fault => .done (.error (.invalidUrl fault))
  | .ok url =>
      client.send .get url none fun response =>
        .done ((decode supportedNamesShape.reader response).map fun names =>
          EventSet.ofList (names.filterMap Event.ofName?))

/-- Ask the server which events it supports.  A server without a document of its capabilities, or
without a link for webhooks in it, cannot tell. -/
def supportedEvents (client : Client) : Session (Except Failure EventSet) :=
  client.send .get client.capabilitiesUrl none fun response =>
    match decode capabilityLinksShape.reader response with
    | .error (.notFound _) =>
        .done (.error (.missingCapability "server does not publish capabilities"))
    | .error failure => .done (.error failure)
    | .ok links =>
        match linkOf? links "webhooks" with
        | none => .done (.error (.missingCapability "webhooks"))
        | some link => client.readSupported link

/-- Find the answer to a call by exchanges with the server. -/
def answer (client : Client) : (call : Call) → Session (Gateway.Answer call)
  | .supportedEvents => client.supportedEvents
  | .list repository filter => client.listFrom repository filter 0 []
  | .create repository name events url =>
      client.sendWebhook .post (client.webhooksUrl repository) (webhookBody name events url)
  | .update repository id name events url =>
      client.sendWebhook .put (client.webhookUrl repository id) (webhookBody name events url)
  | .delete repository id =>
      client.send .delete (client.webhookUrl repository id) none fun response =>
        if response.isSuccess then .done (.ok ()) else .done (.error (refusal response))

/-- Lead a dialogue of calls with the server. -/
def converse {α : Type} (client : Client) (session : Gateway.Session α) : Session α :=
  session.expand client.answer

end Client

end WebhookSync.Server
