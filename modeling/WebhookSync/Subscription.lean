import WebhookSync.Event
import WebhookSync.Json.Value
import WebhookSync.Repository

/-!
# Wanted subscriptions

A subscription says what the orchestrator wants for one repository: the name and the callback
address that its webhook carries, and which kinds of events it is to hear of.  A subscription is
checked when it is built from a draft, never later.
-/

namespace WebhookSync

/-- The wanted state of a repository's webhooks. -/
structure Subscription where
  repository : Repository
  /-- the name by which own webhooks are recognised -/
  name : String
  /-- the address that the hosting server calls -/
  callbackUrl : String
  /-- the repository is a mirror; the two triggers then do not count -/
  mirror : Bool
  onRefChange : Bool
  onPullRequest : Bool
deriving DecidableEq, Repr

namespace Subscription

/-- The longest name that the hosting server takes, in characters. -/
def nameLimit : Nat :=
  255

/-- Where an orchestrator takes callbacks, below its base address. -/
def callbackPath : String :=
  "bitbucket-server-webhook/trigger"

/-- The callback address of an orchestrator: its base address without the slashes at the end, one
slash and the callback path. -/
def callbackUrlOf (orchestratorUrl : String) : String :=
  String.ofList (Text.dropEndWhile (· == '/') orchestratorUrl.toList) ++ "/" ++ callbackPath

/-- Why a draft is no subscription. -/
inductive Fault where
  | emptyName
  | nameTooLong (length : Nat)
  | missingOrchestrator
deriving DecidableEq, Repr

/-- The text of a fault. -/
def Fault.message : Fault → String
  | emptyName => "webhook name must not be empty"
  | nameTooLong length =>
      "webhook name is " ++ toString length ++ " characters, the limit is " ++ toString nameLimit
  | missingOrchestrator => "orchestrator URL must be set"

/-- A subscription in the making. -/
structure Draft where
  repository : Repository
  name : String
  orchestratorUrl : Option String
  mirror : Bool
  onRefChange : Bool
  onPullRequest : Bool
deriving DecidableEq, Repr

namespace Draft

/-- A draft with a name only: no orchestrator, no mirror and no trigger. -/
def start (repository : Repository) (name : String) : Draft :=
  ⟨repository, name, none, false, false, false⟩

/-- The draft with this orchestrator's base address. -/
def setOrchestratorUrl (draft : Draft) (url : String) : Draft :=
  { draft with orchestratorUrl := some url }

/-- The draft for a mirror, or for no mirror. -/
def setMirror (draft : Draft) (mirror : Bool) : Draft :=
  { draft with mirror }

/-- The draft with or without the trigger on branch and tag updates. -/
def setOnRefChange (draft : Draft) (onRefChange : Bool) : Draft :=
  { draft with onRefChange }

/-- The draft with or without the trigger on pull requests. -/
def setOnPullRequest (draft : Draft) (onPullRequest : Bool) : Draft :=
  { draft with onPullRequest }

/-- The orchestrator's base address, unless it is blank. -/
def usableOrchestratorUrl? (draft : Draft) : Option String :=
  draft.orchestratorUrl.filter fun url => Text.trim url != ""

/-- The subscription of a draft.  The name needs a character that is not blank and may not be
longer than the limit; the orchestrator's address needs a character that is not blank. -/
def build (draft : Draft) : Except Fault Subscription :=
  if Text.trim draft.name = "" then .error .emptyName
  else if nameLimit < draft.name.length then .error (.nameTooLong draft.name.length)
  else
    match draft.usableOrchestratorUrl? with
    | none => .error .missingOrchestrator
    | some url =>
        .ok
          { repository := draft.repository
            name := draft.name
            callbackUrl := callbackUrlOf (Text.trim url)
            mirror := draft.mirror
            onRefChange := draft.onRefChange
            onPullRequest := draft.onPullRequest }

end Draft

/-- The structured form. -/
def toJson (wanted : Subscription) : Json :=
  .object [("repository", wanted.repository.toJson), ("name", .string wanted.name),
    ("callback_url", .string wanted.callbackUrl), ("mirror", .bool wanted.mirror),
    ("trigger_on_ref_change", .bool wanted.onRefChange),
    ("trigger_on_pull_request", .bool wanted.onPullRequest)]

/-- The events that the triggers ask for. -/
def triggeredEvents (wanted : Subscription) : EventSet :=
  EventSet.ofTest fun event =>
    wanted.onRefChange && event.isRefChange || wanted.onPullRequest && event.isPullRequest

end Subscription

end WebhookSync
