import WebhookSync.Event
import WebhookSync.Json.Read
import WebhookSync.Json.Value
import WebhookSync.Subscription

/-!
# Webhooks

A webhook as the hosting server stores it.  Its events are names, managed or not.  A webhook counts
as own when it carries the name or the callback address of a subscription, and it is up to date
when it carries both, is active and listens to exactly the wanted events.
-/

namespace WebhookSync

/-- A webhook on the hosting server. -/
structure Webhook where
  id : Int64
  name : String
  /-- the names of all events that it listens to -/
  events : NameSet
  url : String
  active : Bool
deriving DecidableEq

namespace Webhook

/-- Whether the webhook listens to an event. -/
def subscribesTo (hook : Webhook) (event : Event) : Bool :=
  decide (event.name ∈ hook.events)

/-- Whether the webhook listens to some managed event that passes the test. -/
def subscribesToAny (hook : Webhook) (test : Event → Bool) : Bool :=
  Event.all.any fun event => test event && hook.subscribesTo event

/-- Whether the webhook listens to every event of a set. -/
def subscribesToAll (hook : Webhook) (events : EventSet) : Bool :=
  events.toList.all hook.subscribesTo

/-- Whether the webhook listens to the events of a set and to nothing else. -/
def subscribesExactly (hook : Webhook) (events : EventSet) : Bool :=
  decide (hook.events = events.names)

/-- Whether the webhook is one of a subscription's own: by its name or by its address. -/
def isOwnedBy (hook : Webhook) (wanted : Subscription) : Bool :=
  hook.name == wanted.name || hook.url == wanted.callbackUrl

/-- Whether the webhook already is what would be written: name, address and exactly these events,
and active. -/
def isUpToDate (hook : Webhook) (name url : String) (events : EventSet) : Bool :=
  hook.name == name && hook.url == url && hook.active && hook.subscribesExactly events

/-- The structured form. -/
def toJson (hook : Webhook) : Json :=
  .object [("id", .integer hook.id.toInt), ("name", .string hook.name),
    ("events", .strings hook.events.toList), ("url", .string hook.url),
    ("active", .bool hook.active)]

/-! ## Structured text -/

/-- A webhook in the course of reading. -/
structure Draft where
  id : Option Int64
  name : Option String
  events : Option (List String)
  url : Option String
  active : Option Bool

/-- How a webhook is read.  Without events it listens to none, and without a mark it is not
active. -/
def shape : Json.RecordShape Draft Webhook where
  name := "RemoteWebhook"
  start := ⟨none, none, none, none, none⟩
  fields :=
    [.stored "id" Draft.id (fun draft id => { draft with id }) Json.Reader.int64 false,
     .stored "name" Draft.name (fun draft name => { draft with name }) Json.Reader.string false,
     .stored "events" Draft.events (fun draft events => { draft with events })
       (Json.Reader.list Json.Reader.string) true,
     .stored "url" Draft.url (fun draft url => { draft with url }) Json.Reader.string false,
     .stored "active" Draft.active (fun draft active => { draft with active })
       Json.Reader.bool true]
  finish := fun draft => do
    let id ← Json.Mismatch.require "id" draft.id
    let name ← Json.Mismatch.require "name" draft.name
    let url ← Json.Mismatch.require "url" draft.url
    return ⟨id, name, NameSet.ofList (draft.events.getD []), url, draft.active.getD false⟩

/-- A webhook in structured text. -/
def reader : Json.Reader Webhook :=
  shape.reader

end Webhook

end WebhookSync
