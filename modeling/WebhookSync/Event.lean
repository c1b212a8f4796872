import WebhookSync.Json.Read
import WebhookSync.NameSet

/-!
# Managed events

A webhook listens to events, which the hosting server identifies by fixed names.  Six of them are
managed here; no others are ever asked for, and a webhook that is brought up to date is left with
managed ones only.  The six fall into three categories, and a set of managed events is determined by
which of the six it contains (`EventSet.ext`).
-/

namespace WebhookSync

/-- The six managed events, in the order in which sets of them are listed. -/
inductive Event where
  /-- a read-only mirror finished synchronising -/
  | mirrorSynchronized
  /-- a branch or tag was updated -/
  | refsChanged
  | pullRequestOpened
  | pullRequestDeclined
  | pullRequestDeleted
  | pullRequestMerged
deriving DecidableEq, Repr

/-- What kind of change an event announces. -/
inductive Event.Category where
  | mirrorSync
  | refChange
  | pullRequest
deriving DecidableEq, Repr

namespace Event

/-- Every managed event, in order. -/
def all : List Event :=
  [mirrorSynchronized, refsChanged, pullRequestOpened, pullRequestDeclined, pullRequestDeleted,
    pullRequestMerged]

@[simp]
theorem mem_all (event : Event) : event ∈ all := by
  cases event <;> decide

/-- The name by which the hosting server knows the event. -/
def name : Event → String
  | mirrorSynchronized => "mirror:repo_synchronized"
  | refsChanged => "repo:refs_changed"
  | pullRequestOpened => "pr:opened"
  | pullRequestDeclined => "pr:declined"
  | pullRequestDeleted => "pr:deleted"
  | pullRequestMerged => "pr:merged"

/-- Different events have different names. -/
theorem name_inj {first second : Event} : first.name = second.name ↔ first = second := by
  constructor
  · intro sameName
    cases first <;> cases second <;> simp_all [name]
  · rintro rfl
    rfl

/-- The managed event of a name, if there is one. -/
def ofName? (name : String) : Option Event :=
  all.find? fun event => event.name == name

@[simp]
theorem ofName?_name (event : Event) : ofName? event.name = some event := by
  cases event <;> decide

/-- Only an event's own name is read as that event. -/
theorem ofName?_eq_some_iff {name : String} {event : Event} :
    ofName? name = some event ↔ event.name = name := by
  constructor
  · intro found
    simpa using List.find?_some found
  · rintro rfl
    exact ofName?_name event

/-- The category of an event. -/
def category : Event → Category
  | mirrorSynchronized => .mirrorSync
  | refsChanged => .refChange
  | pullRequestOpened | pullRequestDeclined | pullRequestDeleted | pullRequestMerged =>
      .pullRequest

/-- Whether the event announces a mirror synchronisation. -/
def isMirrorSync (event : Event) : Bool :=
  event.category == .mirrorSync

/-- Whether the event announces a branch or tag update. -/
def isRefChange (event : Event) : Bool :=
  event.category == .refChange

/-- Whether the event belongs to the life of a pull request. -/
def isPullRequest (event : Event) : Bool :=
  event.category == .pullRequest

/-- Whether the event is any but the mirror synchronisation. -/
def isRefOrPullRequest (event : Event) : Bool :=
  !event.isMirrorSync

end Event

/-- The name of a category in structured output. -/
def Event.Category.name : Event.Category → String
  | mirrorSync => "mirror_sync"
  | refChange => "ref_change"
  | pullRequest => "pull_request"

/-- Every category, in order. -/
def Event.Category.all : List Event.Category :=
  [mirrorSync, refChange, pullRequest]

/-- An event in structured text. -/
def Event.reader : Json.Reader Event :=
  Json.Reader.choice (Event.all.map fun event => (event.name, event))

/-- A category in structured text. -/
def Event.Category.reader : Json.Reader Event.Category :=
  Json.Reader.choice (Event.Category.all.map fun category => (category.name, category))

/-- A set of managed events. -/
structure EventSet where
  /-- membership -/
  contains : Event → Bool

namespace EventSet

instance : Membership Event EventSet :=
  ⟨fun events event => events.contains event = true⟩

@[simp]
theorem mem_iff {event : Event} {events : EventSet} :
    event ∈ events ↔ events.contains event = true :=
  Iff.rfl

instance (event : Event) (events : EventSet) : Decidable (event ∈ events) :=
  inferInstanceAs (Decidable (events.contains event = true))

/-- Sets with the same members are the same. -/
@[ext]
theorem ext {first second : EventSet}
    (sameMembers : ∀ event, first.contains event = second.contains event) : first = second := by
  cases first
  cases second
  congr
  exact funext sameMembers

instance : DecidableEq EventSet := fun first second =>
  decidable_of_iff (∀ event ∈ Event.all, first.contains event = second.contains event)
    ⟨fun same => ext fun event => same event event.mem_all, fun same _ _ => by rw [same]⟩

/-- No event. -/
def empty : EventSet :=
  ⟨fun _ => false⟩

/-- The events of a list. -/
def ofList (events : List Event) : EventSet :=
  ⟨fun event => decide (event ∈ events)⟩

/-- The events that a test accepts. -/
def ofTest (test : Event → Bool) : EventSet :=
  ⟨test⟩

/-- The members in order, each once. -/
def toList (events : EventSet) : List Event :=
  Event.all.filter events.contains

@[simp]
theorem mem_toList {event : Event} {events : EventSet} :
    event ∈ events.toList ↔ events.contains event = true := by
  simp [toList]

/-- Whether there is no member. -/
def isEmpty (events : EventSet) : Bool :=
  events.toList.isEmpty

/-- Whether some member passes the test. -/
def any (events : EventSet) (test : Event → Bool) : Bool :=
  events.toList.any test

/-- Every managed event. -/
def all : EventSet :=
  ⟨fun _ => true⟩

/-- The mirror synchronisation alone. -/
def mirrorSync : EventSet :=
  ofTest Event.isMirrorSync

/-- The branch and tag updates alone. -/
def refChange : EventSet :=
  ofTest Event.isRefChange

/-- The four pull request events. -/
def pullRequest : EventSet :=
  ofTest Event.isPullRequest

/-- Branch and tag updates together with the four pull request events. -/
def refAndPullRequest : EventSet :=
  ofTest Event.isRefOrPullRequest

/-- The names of the members, in the form in which webhooks carry them. -/
def names (events : EventSet) : NameSet :=
  NameSet.ofList (events.toList.map Event.name)

/-- A set of events and the set of their names say the same. -/
@[simp]
theorem name_mem_names {event : Event} {events : EventSet} :
    event.name ∈ events.names ↔ events.contains event = true := by
  simp [names, Event.name_inj]

/-- Only names of managed events occur among the names of a set. -/
theorem mem_names {name : String} {events : EventSet} :
    name ∈ events.names ↔ ∃ event, events.contains event = true ∧ event.name = name := by
  simp [names]

end EventSet

end WebhookSync
