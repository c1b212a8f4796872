import WebhookSync.Gateway.Call
import WebhookSync.Reconcile.Buckets

/-!
# Reconciliation

Bringing the webhooks of a repository in line with a subscription.  Every run begins with a fresh
listing.  Among the own webhooks that listen to what is wanted, one is kept, brought up to date if
it is not, and the others are deleted; a webhook is created where there is none to keep.  Nothing
that is not own is touched.
-/

namespace WebhookSync.Reconcile

open Gateway (Session Call Answer)

/-- The events to subscribe to where the server supports `supported`: the mirror synchronisation
if it can be had, and else the branch and tag updates. -/
def mirrorEvents (supported : EventSet) : EventSet :=
  if supported.contains .mirrorSynchronized then .mirrorSync
  else if supported.contains .refsChanged then .refChange
  else .empty

/-- The events that a subscription asks for.  For a mirror the server is asked what it supports;
one that cannot tell is taken to support branch and tag updates. -/
def resolveEvents (wanted : Subscription) : Session (Except Failure EventSet) :=
  if wanted.mirror then
    .ask .supportedEvents fun
      | .ok supported => .done (.ok (mirrorEvents supported))
      | .error failure =>
          if failure.isMissingCapability then .done (.ok .refChange) else .done (.error failure)
  else .done (.ok wanted.triggeredEvents)

/-- Delete webhooks one after the other, then end with a result. -/
def deleteAll {α : Type} (repository : Repository) (result : α) :
    List Webhook → Session (Except Failure α)
  | [] => .done (.ok result)
  | hook :: rest =>
      .require (.delete repository hook.id) fun _ => deleteAll repository result rest

/-- Keep one webhook of a bucket and delete those with other ids.  The first one that is up to date
is kept; if there is none, the first one is brought up to date. -/
def align (wanted : Subscription) (bucket : List Webhook) (target : EventSet) :
    Session (Except Failure (Option Webhook)) :=
  match bucket with
  | [] => .done (.ok none)
  | first :: _ =>
      let others (kept : Int64) : List Webhook := bucket.filter fun hook => hook.id != kept
      match bucket.find? fun hook => hook.isUpToDate wanted.name wanted.callbackUrl target with
      | some hook => deleteAll wanted.repository (some hook) (others hook.id)
      | none =>
          .require (.update wanted.repository first.id wanted.name target wanted.callbackUrl)
            fun updated => deleteAll wanted.repository (some updated) (others first.id)

/-- Align a bucket if that is wanted. -/
def alignIf (isWanted : Bool) (wanted : Subscription) (bucket : List Webhook) (target : EventSet) :
    Session (Except Failure BranchOutcome) :=
  if isWanted then
    (align wanted bucket target).andThen fun kept => .done (.ok (.ofOption kept))
  else .done (.ok .skipped)

/-- Whether a webhook has to be created: nothing is own, or nothing that is own listens to a
wanted kind of events. -/
def mustCreate (events : EventSet) (buckets : Buckets) (owned : List Webhook) : Bool :=
  owned.isEmpty || events.any Event.isMirrorSync && buckets.mirrorSync.isEmpty ||
    events.any Event.isRefOrPullRequest && buckets.refOrPullRequest.isEmpty

/-- Bring the own webhooks in line with the wanted events. -/
def applyTo (wanted : Subscription) (events : EventSet) (owned : List Webhook) :
    Session (Except Failure (Option Webhook)) :=
  let buckets := Buckets.classify owned
  if mustCreate events buckets owned then
    .require (.create wanted.repository wanted.name events wanted.callbackUrl) fun created =>
      .done (.ok (some created))
  else
    let plan :=
      TriggerPlan.choose (events.any Event.isRefChange) (events.any Event.isPullRequest) buckets
    (alignIf (events.any Event.isMirrorSync) wanted buckets.mirrorSync .mirrorSync).andThen
      fun mirror =>
        (alignIf (events.any Event.isRefOrPullRequest) wanted (plan.bucket buckets)
          plan.target).andThen fun triggers => .done (.ok (mirror.combine triggers events))

/-- The webhooks of a listing that are a subscription's own. -/
def owned (wanted : Subscription) (hooks : List Webhook) : List Webhook :=
  hooks.filter (·.isOwnedBy wanted)

/-- List the own webhooks. -/
def listOwned (wanted : Subscription) : Session (Except Failure (List Webhook)) :=
  .require (.list wanted.repository Event.all) fun hooks => .done (.ok (owned wanted hooks))

/-- List the own webhooks and bring them in line with the wanted events. -/
def apply (wanted : Subscription) (events : EventSet) :
    Session (Except Failure (Option Webhook)) :=
  (listOwned wanted).andThen (applyTo wanted events)

end Reconcile

/-- Bring the webhooks of a repository in line with a subscription.  The result is the webhook that
now stands for it; there is none when no events are wanted, and then nothing else is asked for. -/
def reconcile (wanted : Subscription) : Gateway.Session (Except Failure (Option Webhook)) :=
  (Reconcile.resolveEvents wanted).andThen fun events =>
    if events.isEmpty then .done (.ok none) else Reconcile.apply wanted events

end WebhookSync
