import WebhookSync.Proofs.Reach

/-!
# Events that are not managed

A webhook that a reconciliation does not touch keeps all its events.  One that it brings up to date
listens to the wanted events from then on and to nothing else: what it listened to besides is lost
(`foreign_events_stay_iff`), even if the reconciliation has only the name or the address to change
(`foreign_event_lost`).
-/

namespace WebhookSync.Reconcile

open Gateway (Call Store)

section Changes

variable {wanted : Subscription} {kind : Shape} {hooks : List Webhook} {hook : Webhook}

/-- What a reconciliation ends with listens to managed events only. -/
theorem not_mem_outcome {name : String} (foreign : Event.ofName? name = none) (nextId : Int64) :
    name ∉ (outcome wanted kind hooks nextId).events := by
  have onlyManaged (shape : Shape) : name ∉ shape.events.names := by
    intro member
    obtain ⟨event, _, rfl⟩ := EventSet.mem_names.mp member
    rw [Event.ofName?_name] at foreign
    cases foreign
  unfold outcome
  split
  · exact onlyManaged kind
  · exact onlyManaged (choose wanted kind hooks)

/-- What listens to an event that is not managed fits no shape. -/
theorem fits_of_foreign {name : String} (foreign : Event.ofName? name = none)
    (listens : name ∈ hook.events) (shape : Shape) : fits wanted shape hook = false := by
  rw [← Bool.not_eq_true]
  intro fit
  rw [(Webhook.isUpToDate_iff.mp fit).2.2.2] at listens
  obtain ⟨event, _, rfl⟩ := EventSet.mem_names.mp listens
  rw [Event.ofName?_name] at foreign
  cases foreign

/-- A gathered webhook is deleted unless it is the anchor. -/
theorem delete_mem_changes_iff (distinct : (hooks.map Webhook.id).Nodup)
    (listed : hook ∈ hooks) :
    .delete wanted.repository hook.id ∈ changes wanted kind hooks ↔
      ∃ anchor, anchor? wanted (choose wanted kind hooks) hooks = some anchor ∧
        hook ∈ others wanted (choose wanted kind hooks) anchor hooks := by
  unfold changes
  cases found : anchor? wanted (choose wanted kind hooks) hooks with
  | none => simp
  | some anchor =>
      have notUpdated (fit : Bool) : Call.delete wanted.repository hook.id ∉
          if fit then [] else [Call.update wanted.repository anchor.id wanted.name
            (choose wanted kind hooks).events wanted.callbackUrl] := by
        cases fit <;> simp
      simp only [Option.some.injEq, exists_eq_left', List.mem_append, notUpdated, false_or]
      constructor
      · intro member
        obtain ⟨gone, other, same⟩ := List.mem_map.mp member
        have goneListed := (mem_gathered.mp (mem_others.mp other).1).1
        obtain rfl := List.inj_on_of_nodup_map distinct goneListed listed
          (Call.delete.inj same).2
        exact other
      · exact List.mem_map_of_mem

/-- A gathered webhook that does not fit is updated or deleted. -/
theorem exists_touches_of_unfit (distinct : (hooks.map Webhook.id).Nodup)
    (inside : hook ∈ gathered wanted (choose wanted kind hooks) hooks)
    (unfit : fits wanted (choose wanted kind hooks) hook = false) :
    ∃ call ∈ changes wanted kind hooks, Touches wanted.repository hook.id call := by
  unfold changes
  cases found : anchor? wanted (choose wanted kind hooks) hooks with
  | none =>
      rw [anchor?_eq_none_iff.mp found] at inside
      exact absurd inside List.not_mem_nil
  | some anchor =>
      by_cases same : hook.id = anchor.id
      · obtain rfl := List.inj_on_of_nodup_map distinct (mem_gathered.mp inside).1
          (mem_gathered.mp (anchor_mem found)).1 same
        refine ⟨.update wanted.repository hook.id wanted.name (choose wanted kind hooks).events
          wanted.callbackUrl, List.mem_append_left _ ?_, rfl, rfl⟩
        simp only [unfit, Bool.false_eq_true, if_false, List.mem_singleton]
      · have other := mem_others.mpr ⟨inside, same⟩
        exact ⟨_, List.mem_append_right _ (List.mem_map_of_mem other), rfl, rfl⟩

end Changes

section End

variable {store : Store} {wanted : Subscription} {kind : Shape} {hook : Webhook}
  (distinct : ((store.webhooks wanted.repository).map Webhook.id).Nodup)
  (listed : hook ∈ store.webhooks wanted.repository)

include distinct listed

/-- What is not deleted is still there in the end. -/
theorem exists_left_iff :
    (∃ left ∈ (completed store wanted kind).webhooks wanted.repository, left.id = hook.id) ↔
      .delete wanted.repository hook.id ∉
        changes wanted kind (store.webhooks wanted.repository) := by
  rw [delete_mem_changes_iff distinct listed]
  simp only [mem_completed distinct]
  constructor
  · rintro ⟨left, rfl | untouched, sameId⟩ ⟨anchor, found, other⟩
    · rw [outcome, found] at sameId
      exact (mem_others.mp other).2 sameId.symm
    · obtain rfl := List.inj_on_of_nodup_map distinct untouched.1 listed sameId
      exact untouched.2 (mem_others.mp other).1
  · intro spared
    by_cases inside : hook ∈ gathered wanted
        (choose wanted kind (store.webhooks wanted.repository)) (store.webhooks wanted.repository)
    · cases found : anchor? wanted (choose wanted kind (store.webhooks wanted.repository))
          (store.webhooks wanted.repository) with
      | none =>
          rw [anchor?_eq_none_iff.mp found] at inside
          exact absurd inside List.not_mem_nil
      | some anchor =>
          have isAnchor : anchor.id = hook.id := by
            by_contra different
            exact spared ⟨anchor, found, mem_others.mpr ⟨inside, Ne.symm different⟩⟩
          refine ⟨_, .inl rfl, ?_⟩
          rw [outcome, found]
          exact isAnchor
    · exact ⟨hook, .inr ⟨listed, inside⟩, rfl⟩

/-- An event that is not managed stays just when its webhook is not touched. -/
theorem exists_left_listening_iff {name : String} (listens : name ∈ hook.events)
    (foreign : Event.ofName? name = none) :
    (∃ left ∈ (completed store wanted kind).webhooks wanted.repository,
        left.id = hook.id ∧ name ∈ left.events) ↔
      ∀ call ∈ changes wanted kind (store.webhooks wanted.repository),
        ¬Touches wanted.repository hook.id call := by
  simp only [mem_completed distinct]
  constructor
  · rintro ⟨left, rfl | untouched, sameId, stays⟩ call member touches
    · exact not_mem_outcome foreign store.nextId stays
    · obtain rfl := List.inj_on_of_nodup_map distinct untouched.1 listed sameId
      obtain ⟨_, other, inside, same⟩ := exists_gathered_of_touches member touches
      obtain rfl := List.inj_on_of_nodup_map distinct (mem_gathered.mp inside).1 listed same
      exact untouched.2 inside
  · intro untouched
    refine ⟨hook, .inr ⟨listed, fun inside => ?_⟩, rfl, listens⟩
    obtain ⟨call, member, touches⟩ :=
      exists_touches_of_unfit distinct inside (fits_of_foreign foreign listens _)
    exact untouched call member touches

end End

/-- Where nothing is set to fail, a webhook is still there behind a reconciliation just when it was
not deleted, and it still listens to an event that is not managed just when it was not touched at
all: an update takes the event away from it. -/
theorem foreign_events_stay_iff {store : Store} {wanted : Subscription} (calm : store.Calm)
    (distinct : ((store.webhooks wanted.repository).map Webhook.id).Nodup) :
    ∃ result after calls, store.run (reconcile wanted) = (.ok result, after) ∧
      after.journal = store.journal ++ calls ∧
      ∀ hook ∈ store.webhooks wanted.repository,
        ((∃ left ∈ after.webhooks wanted.repository, left.id = hook.id) ↔
          .delete wanted.repository hook.id ∉ calls) ∧
        ∀ name ∈ hook.events, Event.ofName? name = none →
          ((∃ left ∈ after.webhooks wanted.repository, left.id = hook.id ∧ name ∈ left.events) ↔
            ∀ call ∈ calls, ¬Touches wanted.repository hook.id call) := by
  have notProbed {call : Call} (mutates : call.isMutation = true) : call ∉ probes wanted := by
    intro member
    rw [isMutation_of_mem_probes member] at mutates
    cases mutates
  rcases wantedEvents_cases store.capabilities wanted with nothing | ⟨kind, asked⟩
  · refine ⟨_, _, _, run_reconcile_of_empty calm nothing, rfl, fun hook listed => ⟨?_, ?_⟩⟩
    · exact iff_of_true ⟨hook, listed, rfl⟩ (notProbed rfl)
    · intro name listens _
      exact iff_of_true ⟨hook, listed, rfl, listens⟩ fun call member touches =>
        notProbed (isMutation_of_touches touches) member
  · refine ⟨_, _, _, run_reconcile_of_distinct calm distinct asked, rfl,
      fun hook listed => ⟨?_, ?_⟩⟩
    · rw [exists_left_iff distinct listed, mem_calls_iff rfl]
    · intro name listens foreign
      rw [exists_left_listening_iff distinct listed listens foreign]
      constructor
      · intro untouched call member touches
        exact untouched call ((mem_calls_iff (isMutation_of_touches touches)).mp member) touches
      · intro untouched call member touches
        exact untouched call ((mem_calls_iff (isMutation_of_touches touches)).mpr member) touches

/-- One webhook is updated, one is deleted and one is a stranger's. -/
theorem foreign_events_stay_iff_update_and_delete :
    let other : Webhook :=
      ⟨1, "other", NameSet.ofList ["pr:merged", "repo:forked"], "https://other", true⟩
    let anchor : Webhook :=
      ⟨2, "ci", NameSet.ofList ["repo:comment:added", "repo:refs_changed"], "https://ci", true⟩
    let double : Webhook :=
      ⟨3, "ci", NameSet.ofList ["pr:opened", "repo:forked"], "https://old", true⟩
    let store := { Store.empty.setWebhooks ⟨"P", "r"⟩ [other, anchor, double] with nextId := 4 }
    let wanted : Subscription := ⟨⟨"P", "r"⟩, "ci", "https://ci", false, true, true⟩
    let kept : Webhook := ⟨2, "ci", EventSet.refAndPullRequest.names, "https://ci", true⟩
    let update : Call := .update wanted.repository 2 "ci" .refAndPullRequest "https://ci"
    let calls := [.list wanted.repository Event.all, update, .delete wanted.repository 3]
    store.Calm ∧ ((store.webhooks wanted.repository).map Webhook.id).Nodup ∧
      ∃ after, store.run (reconcile wanted) = (.ok (some kept), after) ∧ after.journal = calls ∧
        (¬∃ left ∈ after.webhooks wanted.repository, left.id = 3) ∧
        (∃ left ∈ after.webhooks wanted.repository, left.id = 2) ∧
        (¬∃ left ∈ after.webhooks wanted.repository,
          left.id = 2 ∧ "repo:comment:added" ∈ left.events) ∧
        ∃ left ∈ after.webhooks wanted.repository, left.id = 1 ∧ "repo:forked" ∈ left.events := by
  intro other anchor double store wanted kept update calls
  have calm : store.Calm := Store.calm_empty
  have distinct : ((store.webhooks wanted.repository).map Webhook.id).Nodup := by decide
  have reconciles : (store.run (reconcile wanted)).1.toOption = some (some kept) := by
    decide +kernel
  have recorded : (store.run (reconcile wanted)).2.journal = calls := by decide +kernel
  obtain ⟨result, after, made, run, journal, stays⟩ := foreign_events_stay_iff calm distinct
  rw [run] at reconciles recorded
  obtain rfl : some kept = result := (Option.some.inj reconciles).symm
  obtain rfl : calls = made := recorded.symm.trans journal
  obtain ⟨_, otherListens⟩ := stays other (by decide)
  obtain ⟨anchorThere, anchorListens⟩ := stays anchor (by decide)
  obtain ⟨doubleThere, _⟩ := stays double (by decide)
  have isUpdated : update ∈ calls := by decide
  have isDeleted : .delete wanted.repository 3 ∈ calls := by decide
  have untouched : ∀ call ∈ calls, ¬Touches wanted.repository 1 call := by
    simp [calls, update, Touches]
  refine ⟨calm, distinct, after, run, journal, fun isLeft => doubleThere.mp isLeft isDeleted,
    anchorThere.mpr (by decide), fun listens => ?_, ?_⟩
  · exact (anchorListens "repo:comment:added" (by decide) (by decide)).mp listens update isUpdated
      ⟨rfl, rfl⟩
  · exact (otherListens "repo:forked" (by decide) (by decide)).mpr untouched

/-- Only the address of a mirror's webhook is out of date, and it loses an event that is not
managed. -/
theorem foreign_event_lost :
    let hook : Webhook :=
      ⟨1, "ci", NameSet.ofList ["mirror:repo_synchronized", "repo:comment:added"],
        "https://old.example.com", true⟩
    let store := { Store.empty.setWebhooks ⟨"PROJ", "service"⟩ [hook] with nextId := 2 }
    let wanted : Subscription := ⟨⟨"PROJ", "service"⟩, "ci",
      Subscription.callbackUrlOf "https://ci.example.com", true, false, false⟩
    store.Calm ∧ ((store.webhooks wanted.repository).map Webhook.id).Nodup ∧
      ¬∀ hook ∈ store.webhooks wanted.repository,
        ∀ left ∈ (store.run (reconcile wanted)).2.webhooks wanted.repository, left.id = hook.id →
          ∀ name ∈ hook.events, Event.ofName? name = none → name ∈ left.events := by
  intro hook store wanted
  refine ⟨Store.calm_empty, by decide, fun stays => ?_⟩
  have isLeft : (⟨1, "ci", EventSet.mirrorSync.names, wanted.callbackUrl, true⟩ : Webhook) ∈
      (store.run (reconcile wanted)).2.webhooks wanted.repository := by decide
  have kept := stays hook (by decide) _ isLeft rfl "repo:comment:added" (by decide) (by decide)
  exact absurd kept (by decide)

end WebhookSync.Reconcile
