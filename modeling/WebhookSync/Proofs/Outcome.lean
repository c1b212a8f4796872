import WebhookSync.Proofs.Reconcile.Run

/-!
# The outcome of a reconciliation

A reconciliation that meets no failure leaves behind one webhook that stands for the subscription:
it is what the subscription asks for, it listens to all wanted events, and no other own webhook is
of its kind (`reconcile_establishes`).  Where no events are wanted there is no such webhook, and no
webhook is even looked at.
-/

namespace WebhookSync.Reconcile

open Gateway (Call Store)

/-- Own webhooks with exactly the events of a shape are among those that the shape gathers. -/
theorem filter_subscribesExactly (wanted : Subscription) (shape : Shape) (hooks : List Webhook) :
    (owned wanted hooks).filter (·.subscribesExactly shape.events) =
      (gathered wanted shape hooks).filter (·.subscribesExactly shape.events) := by
  rw [gathered, List.filter_filter]
  apply List.filter_congr
  intro hook _
  cases exact : hook.subscribesExactly shape.events with
  | false => simp
  | true => simp [Shape.gathers_of_events_eq (Webhook.subscribesExactly_iff.mp exact)]

/-- What stands for a subscription that wants some events: the webhook is what is asked for, and it
is the only own one of its kind. -/
structure Established (wanted : Subscription) (events : EventSet) (hooks : List Webhook)
    (hook : Webhook) : Prop where
  listed : hook ∈ hooks
  active : hook.active = true
  name : hook.name = wanted.name
  url : hook.url = wanted.callbackUrl
  subscribed : ∀ event, events.contains event = true → hook.subscribesTo event = true
  /-- for a mirror it listens to the synchronisation only, and nothing else own listens to it -/
  mirror : events = .mirrorSync → hook.events = EventSet.mirrorSync.names ∧
    (owned wanted hooks).filter (·.subscribesTo .mirrorSynchronized) = [hook]
  /-- else it listens to just what is wanted, or to all but the synchronisation -/
  shape : events ≠ .mirrorSync →
    hook.events = events.names ∨ hook.events = EventSet.refAndPullRequest.names
  /-- if it listens to just what is wanted, nothing else own does -/
  narrow : events ≠ .mirrorSync → hook.events = events.names →
    (owned wanted hooks).filter (·.subscribesExactly events) = [hook]
  /-- if it listens to all five events, nothing else own listens to any of them -/
  broad : events ≠ .mirrorSync → hook.events = EventSet.refAndPullRequest.names →
    (owned wanted hooks).filter (·.subscribesToAny Event.isRefOrPullRequest) = [hook]

/-- A webhook that is kept with nothing left over stands for the subscription. -/
theorem Kept.established {wanted : Subscription} {kind : Shape} {hooks : List Webhook}
    {kept : Webhook} (distinct : (hooks.map Webhook.id).Nodup)
    (whole : Kept wanted kind hooks kept []) : Established wanted kind.events hooks kept := by
  obtain ⟨name, url, active, sameEvents⟩ := Webhook.isUpToDate_iff.mp whole.fit
  have alone := whole.gathered_eq distinct
  have isMirror (same : kind.events = .mirrorSync) : kind = .mirror := Shape.events_inj same
  have broadest (other : kind.events ≠ .mirrorSync) : kind.broadest = .combined := by
    cases kind with
    | mirror => exact absurd rfl other
    | refOnly => rfl
    | pullRequestOnly => rfl
    | combined => rfl
  refine
    { listed := (mem_gathered.mp (anchor_mem whole.anchor)).1
      active := active
      name := name
      url := url
      subscribed := fun event contained =>
        Shape.subscribesTo_of_le (le_choose wanted kind hooks) sameEvents contained
      mirror := ?_
      shape := ?_
      narrow := ?_
      broad := ?_ }
  · intro same
    obtain rfl := isMirror same
    have chosen : choose wanted .mirror hooks = .mirror :=
      (choose_eq_or wanted .mirror hooks).elim id id
    rw [chosen] at alone sameEvents
    exact ⟨sameEvents, alone⟩
  · intro other
    rcases choose_eq_or wanted kind hooks with chosen | chosen
    · rw [chosen] at sameEvents
      exact .inl sameEvents
    · rw [chosen, broadest other] at sameEvents
      exact .inr sameEvents
  · intro _ exact
    have chosen : choose wanted kind hooks = kind :=
      Shape.events_inj (EventSet.names_inj.mp (sameEvents.symm.trans exact))
    rw [chosen] at alone
    rw [filter_subscribesExactly, alone]
    exact List.filter_cons_of_pos (Webhook.subscribesExactly_iff.mpr exact)
  · intro _ all
    have chosen : choose wanted kind hooks = .combined :=
      Shape.events_inj (EventSet.names_inj.mp (sameEvents.symm.trans all))
    rw [chosen] at alone
    exact alone

/-- Where nothing is set to fail, a reconciliation succeeds.  It comes to no webhook just when no
events are wanted, and then it asks at most for what is supported; else the webhook that it comes
to stands for the subscription behind it. -/
theorem reconcile_establishes {store : Store} {wanted : Subscription} {events : EventSet}
    (calm : store.Calm) (numbered : store.Numbered wanted.repository)
    (room : store.nextId < Int64.maxValue)
    (resolved : (store.run (resolveEvents wanted)).1 = .ok events) :
    ∃ result after calls, store.run (reconcile wanted) = (.ok result, after) ∧
      after.journal = store.journal ++ calls ∧
      (result = none ↔ events.isEmpty = true) ∧
      (result = none →
        after.webhooks = store.webhooks ∧ ∀ call ∈ calls, call = .supportedEvents) ∧
      ∀ hook, result = some hook →
        Established wanted events (after.webhooks wanted.repository) hook := by
  rw [run_resolveEvents calm] at resolved
  obtain rfl : wantedEvents store.capabilities wanted = events := Except.ok.inj resolved
  rcases wantedEvents_cases store.capabilities wanted with nothing | ⟨kind, asked⟩
  · have probesOnly : ∀ call ∈ probes wanted, call = .supportedEvents := by
      intro call member
      unfold probes at member
      split at member
      · exact List.mem_singleton.mp member
      · exact absurd member List.not_mem_nil
    refine ⟨none, _, _, run_reconcile_of_empty calm nothing, rfl, ?_, ?_, ?_⟩
    · rw [nothing]
      decide
    · exact fun _ => ⟨rfl, probesOnly⟩
    · exact fun hook isSome => absurd isSome (by simp)
  · have hasRoom : HasRoom store wanted kind := fun _ _ _ => room
    have distinct := (numbered_completed numbered hasRoom).distinct
    have whole := kept_completed numbered hasRoom
    refine ⟨_, _, _, run_reconcile_of_distinct calm numbered.distinct asked, rfl, ?_, ?_, ?_⟩
    · rw [asked, kind.events_isEmpty]
      simp
    · exact fun isNone => absurd isNone (by simp)
    · intro hook isOutcome
      obtain rfl := Option.some.inj isOutcome
      rw [asked]
      exact whole.established distinct

theorem reconcile_establishes_broadened :
    let store := Store.empty.performAll [.create ⟨"P", "r"⟩ "ci" .refAndPullRequest "https://old",
      .create ⟨"P", "r"⟩ "other" .pullRequest "https://other",
      .create ⟨"P", "r"⟩ "ci" .mirrorSync "https://ci"]
    let wanted : Subscription := ⟨⟨"P", "r"⟩, "ci", "https://ci", false, true, false⟩
    store.Calm ∧ store.Numbered wanted.repository ∧ store.nextId < Int64.maxValue ∧
      (store.run (resolveEvents wanted)).1 = .ok wanted.triggeredEvents ∧
      ∃ hook after, store.run (reconcile wanted) = (.ok (some hook), after) ∧
        Established wanted wanted.triggeredEvents (after.webhooks wanted.repository) hook := by
  intro store wanted
  have calm : store.Calm := Store.calm_empty.performAll _
  have numbered : store.Numbered wanted.repository := by
    refine Store.Numbered.perform ?_ fun _ => by decide
    refine Store.Numbered.perform ?_ fun _ => by decide
    exact (Store.numbered_empty wanted.repository).perform fun _ => by decide
  have room : store.nextId < Int64.maxValue := by decide
  refine ⟨calm, numbered, room, rfl, ?_⟩
  obtain ⟨result, after, calls, run, _, isNone, _, establishes⟩ :=
    @reconcile_establishes store wanted _ calm numbered room rfl
  cases result with
  | none => exact absurd (isNone.mp rfl) (by decide)
  | some hook => exact ⟨hook, after, run, establishes hook rfl⟩

end WebhookSync.Reconcile
