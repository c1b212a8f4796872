import WebhookSync.Url.Basic

/-!
# Exchanges with a server

A request as it is sent, the response to it, and what can go wrong between the two.
-/

namespace WebhookSync.Http

/-- What a request asks for. -/
inductive Method where
  | get
  | post
  | put
  | delete
deriving DecidableEq, Repr

/-- The word that a request begins with. -/
def Method.word : Method → String
  | get => "GET"
  | post => "POST"
  | put => "PUT"
  | delete => "DELETE"

/-- A request as it is sent. -/
structure Request where
  method : Method
  url : Url
  /-- names in small letters; a name can occur more than once -/
  headers : List (String × String)
  body : String

/-- The address of a request as it is sent: user information and a fragment stay at home. -/
def Request.target (request : Request) : Url :=
  { request.url with username := "", password := none, fragment := none }

/-- A response. -/
structure Response where
  status : Nat
  body : List UInt8

/-- Whether the status of a response stands for success. -/
def Response.isSuccess (response : Response) : Bool :=
  200 ≤ response.status && response.status < 300

/-- Why there is no response. -/
inductive Fault where
  /-- no connection can be made -/
  | unreachable (url : String)
  /-- the connection ended without a response -/
  | dropped (url : String)
  /-- the address has a scheme that requests cannot be sent with -/
  | schemeNotAllowed (url : String)
  /-- a header would have a character that no header can have -/
  | invalidHeader
deriving DecidableEq, Repr

/-- A text and the texts of its causes, each cause shown in the text in front of it as well. -/
def nested (outer : String) : List String → List String
  | [] => [outer]
  | cause :: causes => (outer ++ ": " ++ cause) :: cause :: causes

/-- The texts of a fault and of its causes. -/
def Fault.causes : Fault → List String
  | unreachable url =>
      nested ("error sending request for url (" ++ url ++ ")")
        (nested "error trying to connect"
          (nested "tcp connect error" ["Network is unreachable (os error 101)"]))
  | dropped url =>
      nested ("error sending request for url (" ++ url ++ ")")
        ["connection closed before message completed"]
  | schemeNotAllowed url =>
      nested ("builder error for url (" ++ url ++ ")") ["URL scheme is not allowed"]
  | invalidHeader => nested "builder error" ["failed to parse header value"]

/-- What comes back for a request. -/
abbrev Answer (_ : Request) : Type :=
  Except Fault Response

end WebhookSync.Http
