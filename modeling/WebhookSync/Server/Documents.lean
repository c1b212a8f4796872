import WebhookSync.Webhook

/-!
# Documents of a server

What a server sends and is sent: pages of a listing, the two documents that tell what it supports,
and the body that describes a webhook to be stored.  Members that are not named here are passed
over.
-/

namespace WebhookSync.Server

/-- One page of a listing. -/
structure Page where
  values : List Webhook
  isLast : Bool
  nextStart : Option UInt32

namespace Page

/-- A page in the course of reading. -/
structure Draft where
  values : Option (List Webhook)
  isLast : Option Bool
  nextStart : Option (Option UInt32)

/-- How a page is read.  Without a mark it is the last one. -/
def shape : Json.RecordShape Draft Page where
  name := "Page"
  start := ⟨none, none, none⟩
  fields :=
    [.stored "values" Draft.values (fun draft values => { draft with values })
       (Json.Reader.list Webhook.reader) true,
     .stored "isLastPage" Draft.isLast (fun draft isLast => { draft with isLast })
       Json.Reader.bool true,
     .stored "nextPageStart" Draft.nextStart
       (fun draft nextStart => { draft with nextStart := some nextStart })
       (Json.Reader.optional Json.Reader.uint32) true]
  finish := fun draft =>
    .ok ⟨draft.values.getD [], draft.isLast.getD true, draft.nextStart.getD none⟩

end Page

/-- How the links to a server's capabilities are read: names and links in the order of the text. -/
def capabilityLinksShape :
    Json.RecordShape (Option (List (String × String))) (List (String × String)) where
  name := "ServerCapabilities"
  start := none
  fields :=
    [.stored "capabilities" id (fun _ links => some links) (Json.Reader.entries Json.Reader.string)
       true]
  finish := fun draft => .ok (draft.getD [])

/-- The link of a name.  A later link of the same name replaces an earlier one. -/
def linkOf? (links : List (String × String)) (name : String) : Option String :=
  (links.reverse.find? fun link => link.1 == name).map (·.2)

/-- How the names of the supported events are read. -/
def supportedNamesShape : Json.RecordShape (Option (List String)) (List String) where
  name := "WebhookCapabilities"
  start := none
  fields :=
    [.stored "application-webhooks" id (fun _ names => some names)
       (Json.Reader.list Json.Reader.string) true]
  finish := fun draft => .ok (draft.getD [])

/-- The body that describes an active webhook. -/
def webhookBody (name : String) (events : EventSet) (url : String) : Json :=
  .object [("name", .string name), ("events", Json.strings (events.toList.map Event.name)),
    ("url", .string url), ("active", .bool true)]

end WebhookSync.Server
