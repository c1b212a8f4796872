import WebhookSync.Http.Exchange
import WebhookSync.Json.Fault
import WebhookSync.Subscription
import WebhookSync.Url.Fault

/-!
# Failures

Everything that can keep the webhooks of a repository from being read or changed.
-/

namespace WebhookSync

/-- Why webhooks could not be read or changed. -/
inductive Failure where
  /-- what is wanted is no subscription -/
  | invalidSubscription (cause : Subscription.Fault)
  /-- nothing can be relative to the server's address -/
  | opaqueServer (url : String)
  /-- the server cannot tell which events it supports -/
  | missingCapability (what : String)
  | notFound (what : String)
  /-- the server answered with a status other than success -/
  | refused (status : Nat) (message : String)
  | transport (cause : Http.Fault)
  /-- the server's answer cannot be read -/
  | unreadable (cause : Json.Fault)
  /-- a page that is not the last one does not lead to a later one -/
  | brokenPages (start : UInt32) (next : Option UInt32)
  | invalidUrl (cause : Url.Fault)

namespace Failure

/-- Whether the failure says that the server cannot tell which events it supports. -/
def isMissingCapability : Failure → Bool
  | missingCapability _ => true
  | _ => false

/-- The texts of a failure and of its causes, the outermost first. -/
def causes : Failure → List String
  | invalidSubscription cause => ["Invalid webhook request: " ++ cause.message]
  | opaqueServer url =>
      ["Invalid webhook request: server URL cannot be used as a base: " ++ url]
  | missingCapability what => ["Capability not reported by server: " ++ what]
  | notFound what => ["Webhook not found: " ++ what]
  | refused status message => ["API error (" ++ toString status ++ "): " ++ message]
  | transport cause => Http.nested "HTTP error" cause.causes
  | unreadable cause => Http.nested "Serialization error" [cause.message]
  | brokenPages start next =>
      let next := (next.map fun next => "Some(" ++ toString next.toNat ++ ")").getD "None"
      ["Invalid response: webhook page at " ++ toString start.toNat ++
        " is not the last page but nextPageStart is " ++ next]
  | invalidUrl cause => Http.nested "Invalid URL" [cause.message]

/-- The text of a failure. -/
def message (failure : Failure) : String :=
  failure.causes.headD ""

end Failure

end WebhookSync
