import WebhookSync.Webhook

/-!
# Buckets of own webhooks

Own webhooks are grouped by the shape of their subscriptions.  A webhook can lie in several
buckets, or in none.  Each bucket is the sublist of the webhooks that pass its test, in order.
-/

namespace WebhookSync

/-- Own webhooks grouped by what they listen to. -/
structure Buckets where
  /-- those that listen to the mirror synchronisation -/
  mirrorSync : List Webhook
  /-- those that listen to branch and tag updates and to nothing else -/
  refOnly : List Webhook
  /-- those that listen to the four pull request events and to nothing else -/
  pullRequestOnly : List Webhook
  /-- those that listen to some branch, tag or pull request event -/
  refOrPullRequest : List Webhook
deriving DecidableEq

/-- The buckets of a list of webhooks. -/
def Buckets.classify (hooks : List Webhook) : Buckets where
  mirrorSync := hooks.filter (·.subscribesTo .mirrorSynchronized)
  refOnly := hooks.filter (·.subscribesExactly .refChange)
  pullRequestOnly := hooks.filter (·.subscribesExactly .pullRequest)
  refOrPullRequest := hooks.filter (·.subscribesToAny Event.isRefOrPullRequest)

/-- How the webhooks for branches, tags and pull requests are brought in line. -/
inductive TriggerPlan where
  /-- both kinds are wanted: one webhook for all five events -/
  | combined
  /-- a webhook for branches and tags alone exists and stays narrow -/
  | refOnly
  /-- a webhook for pull requests alone exists and stays narrow -/
  | pullRequestOnly
  /-- one kind is wanted and no webhook is for it alone: one webhook for all five events -/
  | broaden
deriving DecidableEq, Repr

namespace TriggerPlan

/-- The plan for the wanted kinds of events and the webhooks at hand. -/
def choose (refChange pullRequest : Bool) (buckets : Buckets) : TriggerPlan :=
  if refChange && pullRequest then .combined
  else if refChange && !buckets.refOnly.isEmpty then .refOnly
  else if !refChange && pullRequest && !buckets.pullRequestOnly.isEmpty then .pullRequestOnly
  else .broaden

/-- The events that the one remaining webhook of the plan listens to. -/
def target : TriggerPlan → EventSet
  | refOnly => .refChange
  | pullRequestOnly => .pullRequest
  | combined | broaden => .refAndPullRequest

/-- The webhooks on which the plan works. -/
def bucket (buckets : Buckets) : TriggerPlan → List Webhook
  | refOnly => buckets.refOnly
  | pullRequestOnly => buckets.pullRequestOnly
  | combined | broaden => buckets.refOrPullRequest

end TriggerPlan

/-- What one branch of a reconciliation came to. -/
inductive BranchOutcome where
  /-- the branch was not wanted -/
  | skipped
  /-- the branch ran and found nothing to work on -/
  | empty
  /-- the webhook that the branch kept -/
  | kept (hook : Webhook)
deriving DecidableEq

namespace BranchOutcome

/-- The outcome of a branch that ran. -/
def ofOption : Option Webhook → BranchOutcome
  | none => .empty
  | some hook => .kept hook

/-- The webhook of an outcome. -/
def webhook? : BranchOutcome → Option Webhook
  | kept hook => some hook
  | skipped | empty => none

/-- The webhook to report.  The mirror webhook is reported when it covers every wanted event, or
when the other branch never ran; otherwise the other branch decides. -/
def combine (mirror triggers : BranchOutcome) (wanted : EventSet) : Option Webhook :=
  match mirror, triggers with
  | .kept hook, triggers =>
      if hook.subscribesToAll wanted then some hook
      else
        match triggers with
        | .skipped => some hook
        | other => other.webhook?
  | mirror, .skipped => mirror.webhook?
  | _, triggers => triggers.webhook?

end BranchOutcome

end WebhookSync
