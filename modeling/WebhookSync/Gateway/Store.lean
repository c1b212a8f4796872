import WebhookSync.Gateway.Call

/-!
# A store of webhooks in memory

The store keeps webhooks by repository, in the order in which they came, hands out ids, and writes
every call into a journal.  Calls can be set to fail, and the store can be told which events to
report as supported, or to report none.
-/

namespace WebhookSync.Gateway

/-- A kind of call. -/
inductive Operation where
  | supportedEvents
  | list
  | create
  | update
  | delete
deriving DecidableEq, Repr

/-- Every kind of call. -/
def Operation.all : List Operation :=
  [supportedEvents, list, create, update, delete]

/-- The name of a kind of call. -/
def Operation.name : Operation → String
  | supportedEvents => "SupportedEvents"
  | list => "List"
  | create => "Create"
  | update => "Update"
  | delete => "Delete"

/-- The kind of a call. -/
def Call.operation : Call → Operation
  | supportedEvents => .supportedEvents
  | list _ _ => .list
  | create _ _ _ _ => .create
  | update _ _ _ _ _ => .update
  | delete _ _ => .delete

/-- Webhooks in memory. -/
structure Store where
  webhooks : Repository → List Webhook
  /-- the id of the next new webhook -/
  nextId : Int64
  /-- the events to report as supported, or nothing to report -/
  capabilities : Option EventSet
  /-- the kinds of calls that fail -/
  failing : Operation → Bool
  /-- the calls so far, the oldest first -/
  journal : List Call

namespace Store

/-- A store without webhooks that supports every managed event. -/
def empty : Store where
  webhooks := fun _ => []
  nextId := 1
  capabilities := some .all
  failing := fun _ => false
  journal := []

/-! ## Preparing a store -/

/-- The store with other webhooks for a repository. -/
def setWebhooks (store : Store) (repository : Repository) (hooks : List Webhook) : Store :=
  { store with
    webhooks := fun other => if other = repository then hooks else store.webhooks other }

/-- The store with a webhook behind those of a repository. -/
def append (store : Store) (repository : Repository) (hook : Webhook) : Store :=
  store.setWebhooks repository (store.webhooks repository ++ [hook])

/-- The store that reports these events as supported. -/
def setSupportedEvents (store : Store) (events : EventSet) : Store :=
  { store with capabilities := some events }

/-- The store that cannot report supported events. -/
def setCapabilityMissing (store : Store) : Store :=
  { store with capabilities := none }

/-- The store in which also this kind of calls fails. -/
def failOn (store : Store) (operation : Operation) : Store :=
  { store with failing := fun other => other == operation || store.failing other }

/-- The store with an empty journal. -/
def clearJournal (store : Store) : Store :=
  { store with journal := [] }

/-- Add a webhook under a fresh id, without a call.  Behind the greatest id the ids go on with the
least one. -/
def insert (store : Store) (repository : Repository) (name : String) (events : NameSet)
    (url : String) (active : Bool) : Webhook × Store :=
  let hook : Webhook := ⟨store.nextId, name, events, url, active⟩
  (hook, { store with nextId := store.nextId + 1 }.append repository hook)

/-- The id behind a given one; there is none behind the greatest. -/
def successor? (id : Int64) : Option Int64 :=
  if id = Int64.maxValue then none else some (id + 1)

/-- Add a webhook under its own id, without a call.  Later ids are greater, so there has to be an
id behind it. -/
def insertWebhook? (store : Store) (repository : Repository) (hook : Webhook) : Option Store :=
  (successor? hook.id).map fun next =>
    { store with nextId := max store.nextId next }.append repository hook

/-! ## Answering calls -/

/-- The failure of a call that is set to fail. -/
def setToFail (call : Call) : Failure :=
  .refused 500 (call.operation.name ++ " failed")

/-- The failure of a call to a webhook that is not there. -/
def noSuchWebhook (id : Int64) : Failure :=
  .notFound (toString id.toInt)

/-- The webhooks with the first one of an id changed. -/
def updateFirst (id : Int64) (change : Webhook → Webhook) : List Webhook → List Webhook
  | [] => []
  | hook :: rest => if hook.id = id then change hook :: rest else hook :: updateFirst id change rest

/-- The effect of a call that is not set to fail. -/
def perform (store : Store) : (call : Call) → Answer call × Store
  | .supportedEvents =>
      match store.capabilities with
      | some events => (.ok events, store)
      | none => (.error (.missingCapability "webhooks"), store)
  | .list repository filter =>
      (.ok ((store.webhooks repository).filter fun hook => filter.any hook.subscribesTo), store)
  | .create repository name events url =>
      let (hook, store) := store.insert repository name events.names url true
      (.ok hook, store)
  | .update repository id name events url =>
      let change (hook : Webhook) : Webhook :=
        { hook with name, events := events.names, url, active := true }
      match (store.webhooks repository).find? (·.id = id) with
      | none => (.error (noSuchWebhook id), store)
      | some hook =>
          (.ok (change hook),
            store.setWebhooks repository (updateFirst id change (store.webhooks repository)))
  | .delete repository id =>
      if (store.webhooks repository).any (·.id = id) then
        (.ok (), store.setWebhooks repository
          ((store.webhooks repository).filter fun hook => hook.id ≠ id))
      else (.error (noSuchWebhook id), store)

/-- Write a call into the journal and answer it. -/
def answer (call : Call) (store : Store) : Answer call × Store :=
  let noted := { store with journal := store.journal ++ [call] }
  if store.failing call.operation then (.error (setToFail call), noted) else noted.perform call

/-- Lead a dialogue with the store. -/
def run {α : Type} (store : Store) (session : Session α) : α × Store :=
  session.run answer store

end Store

end WebhookSync.Gateway
