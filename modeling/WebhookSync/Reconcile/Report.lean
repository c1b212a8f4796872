import WebhookSync.Gateway.Store
import WebhookSync.Reconcile.Basic

/-!
# Reports

What a reconciliation did, what it would do, and what a server can tell about itself.  A preview
reconciles a copy of the listed webhooks in a store of its own, so the gateway is only read.
-/

namespace WebhookSync

open Gateway (Session Call Store)

/-- What a reconciliation did, or would do. -/
structure Report where
  /-- the repository, as it is shown -/
  repository : String
  /-- nothing was changed -/
  isPreview : Bool
  /-- the changes that would be made, in words -/
  plannedCalls : List String
  webhook : Option Webhook

/-- The structured form.  Without planned calls it has no member for them. -/
def Report.toJson (report : Report) : Json :=
  let planned :=
    if report.plannedCalls.isEmpty then []
    else [("planned_calls", Json.strings report.plannedCalls)]
  .object ([("repository", .string report.repository), ("dry_run", .bool report.isPreview)] ++
    planned ++ [("webhook", Json.optional Webhook.toJson report.webhook)])

/-- A failure together with what was being tried, the outermost first. -/
structure Setback where
  context : List String
  cause : Failure

/-- The texts of a setback, the outermost first. -/
def Setback.causes (setback : Setback) : List String :=
  setback.context ++ setback.cause.causes

/-- The result with what was being tried. -/
def inContext {α : Type} (context : String) (result : Except Failure α) : Except Setback α :=
  result.mapError fun cause => ⟨[context], cause⟩

/-- What is said to be tried when webhooks are listed. -/
def Repository.listingContext (repository : Repository) : String :=
  "Failed to list webhooks on " ++ repository.display

/-- What is said to be tried when the server is asked what it supports. -/
def capabilityContext : String :=
  "Failed to read server capabilities"

/-! ## Previews -/

namespace Preview

/-- Why there is no preview. -/
inductive Fault where
  | setback (setback : Setback)
  /-- a listed webhook has the greatest id, so the copy has no id for a new one -/
  | idsExhausted

/-- A store with a copy of webhooks. -/
def copy (repository : Repository) (hooks : List Webhook) : Option Store :=
  hooks.foldlM (fun store hook => store.insertWebhook? repository hook) Store.empty

/-- Reconcile the copy and report what was changed in it. -/
def report (wanted : Subscription) (store : Store) : Except Fault Report :=
  let (result, store) := store.run (reconcile wanted)
  match result with
  | .error failure => .error (.setback ⟨[], failure⟩)
  | .ok webhook =>
      .ok ⟨wanted.repository.display, true,
        (store.journal.filter Call.isMutation).map Call.describe, webhook⟩

end Preview

/-- What a reconciliation would do.  The gateway is asked to list the webhooks and, for a mirror,
what the server supports. -/
def preview (wanted : Subscription) : Session (Except Preview.Fault Report) :=
  .ask (.list wanted.repository Event.all) fun
    | .error failure => .done (.error (.setback ⟨[wanted.repository.listingContext], failure⟩))
    | .ok hooks =>
        match Preview.copy wanted.repository hooks with
        | none => .done (.error .idsExhausted)
        | some store =>
            if wanted.mirror then
              .ask .supportedEvents fun
                | .ok events => .done (Preview.report wanted (store.setSupportedEvents events))
                | .error failure =>
                    if failure.isMissingCapability then
                      .done (Preview.report wanted store.setCapabilityMissing)
                    else .done (.error (.setback ⟨[capabilityContext], failure⟩))
            else .done (Preview.report wanted store)

/-! ## Capabilities -/

/-- What a server tells about the events that it supports. -/
structure CapabilityReport where
  /-- the server can tell -/
  isReported : Bool
  events : EventSet

/-- The structured form. -/
def CapabilityReport.toJson (report : CapabilityReport) : Json :=
  .object [("reported", .bool report.isReported),
    ("events", Json.strings (report.events.toList.map Event.name))]

/-- Ask which events the server supports. -/
def probe : Session (Except Setback CapabilityReport) :=
  .ask .supportedEvents fun
    | .ok events => .done (.ok ⟨true, events⟩)
    | .error failure =>
        if failure.isMissingCapability then .done (.ok ⟨false, .empty⟩)
        else .done (.error ⟨[capabilityContext], failure⟩)

end WebhookSync
