import WebhookSync.Proofs.Events
import WebhookSync.Reconcile.Buckets

/-!
# Shapes of own webhooks

Every webhook that a reconciliation writes subscribes to exactly the events of one of four shapes,
and each shape gathers the webhooks that it stands in for.  Shapes are ordered by their events.  The
order decides which shapes gather a webhook that has a shape itself (`gathers_iff_le`), and with
that how the webhooks of different subscriptions get into each other's way.
-/

namespace WebhookSync

/-- What an own webhook is for. -/
inductive Shape where
  | mirror
  | refOnly
  | pullRequestOnly
  | combined
deriving DecidableEq, Repr

namespace Shape

/-- The events that a webhook of the shape subscribes to. -/
def events : Shape → EventSet
  | mirror => .mirrorSync
  | refOnly => .refChange
  | pullRequestOnly => .pullRequest
  | combined => .refAndPullRequest

/-- Whether a webhook is among those that the shape stands in for. -/
def gathers : Shape → Webhook → Bool
  | mirror, hook => hook.subscribesTo .mirrorSynchronized
  | refOnly, hook => hook.subscribesExactly .refChange
  | pullRequestOnly, hook => hook.subscribesExactly .pullRequest
  | combined, hook => hook.subscribesToAny Event.isRefOrPullRequest

/-- The greatest shape with the events of a shape. -/
def broadest : Shape → Shape
  | mirror => mirror
  | refOnly | pullRequestOnly | combined => combined

/-- One shape is below another when the other has all of its events. -/
instance : LE Shape :=
  ⟨fun first second =>
    ∀ event, first.events.contains event = true → second.events.contains event = true⟩

theorem le_def {first second : Shape} :
    first ≤ second ↔
      ∀ event, first.events.contains event = true → second.events.contains event = true :=
  Iff.rfl

instance (first second : Shape) : Decidable (first ≤ second) :=
  decidable_of_iff
    (∀ event ∈ Event.all, first.events.contains event = true → second.events.contains event = true)
    ⟨fun included event => included event event.mem_all, fun below event _ => below event⟩

protected theorem le_refl (shape : Shape) : shape ≤ shape :=
  fun _ contained => contained

protected theorem le_trans {first second third : Shape} (lower : first ≤ second)
    (upper : second ≤ third) : first ≤ third :=
  fun event contained => upper event (lower event contained)

theorem le_broadest (shape : Shape) : shape ≤ shape.broadest := by
  cases shape <;> decide

/-- Above a shape there is nothing but the shape itself and the broadest one. -/
theorem le_iff {first second : Shape} :
    first ≤ second ↔ second = first ∨ second = first.broadest := by
  cases first <;> cases second <;> decide

/-- Different shapes have different events. -/
protected theorem le_antisymm {first second : Shape} (lower : first ≤ second)
    (upper : second ≤ first) : first = second := by
  rcases le_iff.mp lower with rfl | rfl
  · rfl
  · rcases le_iff.mp upper with same | same
    · exact same
    · cases first <;> first | rfl | exact absurd same (by decide)

theorem events_inj {first second : Shape} (sameEvents : first.events = second.events) :
    first = second := by
  apply Shape.le_antisymm
  · rw [le_def, sameEvents]
    exact fun _ contained => contained
  · rw [le_def, sameEvents]
    exact fun _ contained => contained

theorem any_isMirrorSync (shape : Shape) :
    shape.events.any Event.isMirrorSync = decide (shape = mirror) := by
  cases shape <;> decide

theorem any_isRefOrPullRequest (shape : Shape) :
    shape.events.any Event.isRefOrPullRequest = decide (shape ≠ mirror) := by
  cases shape <;> decide

theorem events_isEmpty (shape : Shape) : shape.events.isEmpty = false := by
  cases shape <;> decide

/-- A shape gathers the webhooks that have a shape below it, and no others that have a shape. -/
theorem gathers_iff_le {shape other : Shape} {hook : Webhook}
    (sameEvents : hook.events = shape.events.names) :
    other.gathers hook = true ↔ shape ≤ other := by
  cases other with
  | mirror =>
      simp only [gathers, Webhook.subscribesTo_of_events_eq sameEvents]
      cases shape <;> decide
  | refOnly =>
      simp only [gathers, Webhook.subscribesExactly_iff, sameEvents, EventSet.names_inj]
      cases shape <;> decide
  | pullRequestOnly =>
      simp only [gathers, Webhook.subscribesExactly_iff, sameEvents, EventSet.names_inj]
      cases shape <;> decide
  | combined =>
      simp only [gathers, Webhook.subscribesToAny, Webhook.subscribesTo_of_events_eq sameEvents]
      cases shape <;> decide

/-- A shape gathers the webhooks that have it. -/
theorem gathers_of_events_eq {shape : Shape} {hook : Webhook}
    (sameEvents : hook.events = shape.events.names) : shape.gathers hook = true :=
  (gathers_iff_le sameEvents).mpr shape.le_refl

/-- A shape that has a greater one gathers only webhooks that have the shape. -/
theorem events_eq_of_gathers {shape : Shape} {hook : Webhook} (narrow : shape ≠ shape.broadest)
    (gathered : shape.gathers hook = true) : hook.events = shape.events.names := by
  cases shape with
  | mirror => exact absurd rfl narrow
  | refOnly => exact Webhook.subscribesExactly_iff.mp gathered
  | pullRequestOnly => exact Webhook.subscribesExactly_iff.mp gathered
  | combined => exact absurd rfl narrow

/-- A greater shape gathers more. -/
theorem gathers_mono {first second : Shape} (below : first ≤ second) {hook : Webhook}
    (gathered : first.gathers hook = true) : second.gathers hook = true := by
  rcases le_iff.mp below with rfl | rfl
  · exact gathered
  · by_cases narrow : first = first.broadest
    · exact narrow ▸ gathered
    · exact (gathers_iff_le (events_eq_of_gathers narrow gathered)).mpr first.le_broadest

/-- Whatever a shape gathers listens to some managed event. -/
theorem exists_subscribesTo_of_gathers {shape : Shape} {hook : Webhook}
    (gathered : shape.gathers hook = true) : ∃ event, hook.subscribesTo event = true := by
  cases shape with
  | mirror => exact ⟨_, gathered⟩
  | refOnly =>
      refine ⟨.refsChanged, ?_⟩
      rw [Webhook.subscribesTo_of_events_eq (Webhook.subscribesExactly_iff.mp gathered)]
      decide
  | pullRequestOnly =>
      refine ⟨.pullRequestOpened, ?_⟩
      rw [Webhook.subscribesTo_of_events_eq (Webhook.subscribesExactly_iff.mp gathered)]
      decide
  | combined =>
      obtain ⟨event, _, subscribed⟩ := Webhook.subscribesToAny_eq_true_iff.mp gathered
      exact ⟨event, subscribed⟩

/-- A webhook of a greater shape listens to all events of a shape. -/
theorem subscribesTo_of_le {shape other : Shape} (below : shape ≤ other) {hook : Webhook}
    (sameEvents : hook.events = other.events.names) {event : Event}
    (contained : shape.events.contains event = true) : hook.subscribesTo event = true := by
  rw [Webhook.subscribesTo_of_events_eq sameEvents]
  exact below event contained

end Shape

end WebhookSync
