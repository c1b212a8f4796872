import WebhookSync.Webhook

/-!
# Exact subscriptions

A webhook that subscribes to exactly the events of a set listens to an event just when the set
contains it, and no other set fits it.  So what can be asked about such a webhook is answered by the
set alone.
-/

namespace WebhookSync

namespace Event

theorem isMirrorSync_or_isRefOrPullRequest (event : Event) :
    event.isMirrorSync = true ∨ event.isRefOrPullRequest = true := by
  cases event <;> decide

theorem eq_mirrorSynchronized_of_isMirrorSync {event : Event}
    (isMirror : event.isMirrorSync = true) : event = .mirrorSynchronized := by
  revert isMirror
  cases event <;> decide

theorem isRefChange_or_isPullRequest {event : Event} (isTrigger : event.isRefOrPullRequest = true) :
    event.isRefChange = true ∨ event.isPullRequest = true := by
  revert isTrigger
  cases event <;> decide

end Event

namespace EventSet

theorem isEmpty_eq_true_iff {events : EventSet} :
    events.isEmpty = true ↔ ∀ event, events.contains event = false := by
  simp [isEmpty, List.isEmpty_iff, List.eq_nil_iff_forall_not_mem]

theorem any_eq_true_iff {events : EventSet} {test : Event → Bool} :
    events.any test = true ↔ ∃ event, events.contains event = true ∧ test event = true := by
  simp [any]

/-- Different sets of events have different sets of names. -/
theorem names_inj {first second : EventSet} : first.names = second.names ↔ first = second := by
  constructor
  · intro sameNames
    ext event
    rw [Bool.eq_iff_iff, ← name_mem_names, sameNames, name_mem_names]
  · rintro rfl
    rfl

end EventSet

namespace Webhook

@[simp]
theorem subscribesExactly_iff {hook : Webhook} {events : EventSet} :
    hook.subscribesExactly events = true ↔ hook.events = events.names := by
  simp [subscribesExactly]

/-- What a webhook listens to is told by the set that fits it exactly. -/
theorem subscribesTo_of_events_eq {hook : Webhook} {events : EventSet}
    (sameEvents : hook.events = events.names) (event : Event) :
    hook.subscribesTo event = events.contains event := by
  rw [Bool.eq_iff_iff, subscribesTo, sameEvents, decide_eq_true_iff, EventSet.name_mem_names]

theorem subscribesToAny_eq_true_iff {hook : Webhook} {test : Event → Bool} :
    hook.subscribesToAny test = true ↔
      ∃ event, test event = true ∧ hook.subscribesTo event = true := by
  simp [subscribesToAny]

theorem isOwnedBy_iff {hook : Webhook} {wanted : Subscription} :
    hook.isOwnedBy wanted = true ↔
      hook.name = wanted.name ∨ hook.url = wanted.callbackUrl := by
  simp [isOwnedBy]

theorem isUpToDate_iff {hook : Webhook} {name url : String} {events : EventSet} :
    hook.isUpToDate name url events = true ↔
      hook.name = name ∧ hook.url = url ∧ hook.active = true ∧ hook.events = events.names := by
  simp [isUpToDate, and_assoc]

/-- A webhook that is up to date for a subscription is one of its own. -/
theorem isOwnedBy_of_isUpToDate {hook : Webhook} {wanted : Subscription} {events : EventSet}
    (upToDate : hook.isUpToDate wanted.name wanted.callbackUrl events = true) :
    hook.isOwnedBy wanted = true :=
  isOwnedBy_iff.mpr (.inl (isUpToDate_iff.mp upToDate).1)

/-- The webhook with what a subscription asks for written into it. -/
def rewrittenFor (wanted : Subscription) (events : EventSet) (hook : Webhook) : Webhook :=
  { hook with
    name := wanted.name, events := events.names, url := wanted.callbackUrl, active := true }

@[simp]
theorem rewrittenFor_id (wanted : Subscription) (events : EventSet) (hook : Webhook) :
    (hook.rewrittenFor wanted events).id = hook.id :=
  rfl

theorem isUpToDate_rewrittenFor (wanted : Subscription) (events : EventSet) (hook : Webhook) :
    (hook.rewrittenFor wanted events).isUpToDate wanted.name wanted.callbackUrl events = true :=
  isUpToDate_iff.mpr ⟨rfl, rfl, rfl, rfl⟩

/-- Writing into a webhook what it already says changes nothing. -/
theorem rewrittenFor_of_isUpToDate {hook : Webhook} {wanted : Subscription} {events : EventSet}
    (upToDate : hook.isUpToDate wanted.name wanted.callbackUrl events = true) :
    hook.rewrittenFor wanted events = hook := by
  obtain ⟨sameName, sameUrl, active, sameEvents⟩ := isUpToDate_iff.mp upToDate
  cases hook
  simp_all [rewrittenFor]

end Webhook

end WebhookSync
