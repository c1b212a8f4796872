import WebhookSync.Dialogue
import WebhookSync.Failure
import WebhookSync.Webhook

/-!
# Calls of a gateway

A gateway keeps the webhooks of repositories.  Whoever works on them does so by these calls alone,
so a dialogue of calls can be led with a server or with a store in memory.
-/

namespace WebhookSync.Gateway

/-- What a gateway can be asked to do. -/
inductive Call where
  /-- tell which events the server supports -/
  | supportedEvents
  /-- list the webhooks of a repository that listen to some event of the filter -/
  | list (repository : Repository) (filter : List Event)
  /-- create an active webhook -/
  | create (repository : Repository) (name : String) (events : EventSet) (url : String)
  /-- give a webhook a name, events and an address, and activate it -/
  | update (repository : Repository) (id : Int64) (name : String) (events : EventSet)
      (url : String)
  | delete (repository : Repository) (id : Int64)
deriving DecidableEq

/-- What a call comes back with. -/
abbrev Call.Reply : Call → Type
  | supportedEvents => EventSet
  | list _ _ => List Webhook
  | create _ _ _ _ => Webhook
  | update _ _ _ _ _ => Webhook
  | delete _ _ => Unit

/-- The answer to a call. -/
abbrev Answer (call : Call) : Type :=
  Except Failure call.Reply

/-- A dialogue with a gateway. -/
abbrev Session (α : Type) : Type :=
  Dialogue Call Answer α

namespace Call

/-- Whether the call can change webhooks. -/
def isMutation : Call → Bool
  | supportedEvents | list _ _ => false
  | create _ _ _ _ | update _ _ _ _ _ | delete _ _ => true

/-- The names of events with commas between them. -/
def describeEvents (events : EventSet) : String :=
  String.intercalate ", " (events.toList.map Event.name)

/-- The call in words. -/
def describe : Call → String
  | supportedEvents => "probe supported events"
  | list repository _ => "list webhooks on " ++ repository.display
  | create repository name events url =>
      "create webhook '" ++ name ++ "' on " ++ repository.display ++ " -> " ++ url ++ " [" ++
        describeEvents events ++ "]"
  | update repository id name events url =>
      "update webhook " ++ toString id.toInt ++ " '" ++ name ++ "' on " ++ repository.display ++
        " -> " ++ url ++ " [" ++ describeEvents events ++ "]"
  | delete repository id =>
      "delete webhook " ++ toString id.toInt ++ " on " ++ repository.display

end Call

end WebhookSync.Gateway
