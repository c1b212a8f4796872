import WebhookSync.Proofs.Independence

/-!
# The order of a listing

The webhook that a reconciliation keeps is the first that fits, or else the first of all, so which
one it is depends on the order in which the webhooks are listed.  Nothing else does: the kinds of
calls follow from what is gathered and whether something of it fits (`operations_changes`), and what
is left alone and what the kept webhook becomes are the same but for an id
(`reconcile_ignores_order`).
-/

namespace WebhookSync.Reconcile

open Gateway (Call Operation Store)

/-! ## The calls by their kinds -/

/-- Of the gathered webhooks all but the anchor are the others. -/
theorem length_others {wanted : Subscription} {shape : Shape} {hooks : List Webhook}
    {anchor : Webhook} (distinct : (hooks.map Webhook.id).Nodup)
    (inside : anchor ∈ gathered wanted shape hooks) :
    (others wanted shape anchor hooks).length = (gathered wanted shape hooks).length - 1 := by
  have distinctGathered := distinct_gathered distinct wanted shape
  have alone : (gathered wanted shape hooks).filter (fun hook => !(hook.id != anchor.id)) =
      [anchor] := by
    apply eq_singleton (distinctGathered.sublist (List.filter_sublist.map _))
    · exact List.mem_filter.mpr ⟨inside, by simp⟩
    · intro hook member
      obtain ⟨hookInside, sameId⟩ := List.mem_filter.mp member
      exact List.inj_on_of_nodup_map distinctGathered hookInside inside (by simpa using sameId)
  have whole := (gathered wanted shape hooks).length_eq_length_filter_add
    fun hook => hook.id != anchor.id
  rw [alone, List.length_singleton] at whole
  exact (Nat.sub_eq_of_eq_add whole).symm

/-- The anchor fits as soon as something that is gathered does. -/
theorem fits_anchor {wanted : Subscription} {shape : Shape} {hooks : List Webhook}
    {anchor : Webhook} (found : anchor? wanted shape hooks = some anchor) :
    fits wanted shape anchor = (gathered wanted shape hooks).any (fits wanted shape) := by
  cases fit : fits wanted shape anchor with
  | true => exact (List.any_eq_true.mpr ⟨anchor, anchor_mem found, fit⟩).symm
  | false =>
      rcases Option.or_eq_some_iff.mp found with first | ⟨nothing, _⟩
      · rw [List.find?_some first] at fit
        exact Bool.noConfusion fit
      · symm
        rw [List.any_eq_false]
        exact List.find?_eq_none.mp nothing

/-- How often which kind of call is made follows from how many webhooks are gathered and whether
one of them fits. -/
theorem operations_changes {wanted : Subscription} {kind : Shape} {hooks : List Webhook}
    (distinct : (hooks.map Webhook.id).Nodup) :
    let shape := choose wanted kind hooks
    let found := gathered wanted shape hooks
    (changes wanted kind hooks).map Call.operation =
      if found.isEmpty then [.create]
      else (if found.any (fits wanted shape) then [] else [.update]) ++
        List.replicate (found.length - 1) .delete := by
  intro shape found
  unfold changes
  cases isAnchor : anchor? wanted shape hooks with
  | none =>
      rw [show found = [] from anchor?_eq_none_iff.mp isAnchor]
      rfl
  | some anchor =>
      have inside : anchor ∈ found := anchor_mem isAnchor
      have something : ¬found.isEmpty = true := by
        rw [List.isEmpty_iff]
        exact List.ne_nil_of_mem inside
      have deletes : (deletions wanted.repository (others wanted shape anchor hooks)).map
          Call.operation = List.replicate (found.length - 1) .delete := by
        rw [deletions, List.map_map, ← length_others distinct inside]
        exact List.map_const' ..
      rw [if_neg something, List.map_append, deletes, ← fits_anchor isAnchor]
      split <;> rfl

/-! ## Another order -/

section Reordered

variable {wanted : Subscription} {kind : Shape} {hooks hooks' : List Webhook}
  (reordered : hooks'.Perm hooks)

include reordered

theorem gathered_perm (wanted : Subscription) (shape : Shape) :
    (gathered wanted shape hooks').Perm (gathered wanted shape hooks) := by
  rw [gathered_eq_filter, gathered_eq_filter]
  exact reordered.filter _

theorem choose_perm : choose wanted kind hooks' = choose wanted kind hooks :=
  choose_congr ⟨fun nothing => (nothing ▸ gathered_perm reordered wanted kind).nil_eq.symm,
    fun nothing => (nothing ▸ gathered_perm reordered wanted kind).eq_nil⟩

theorem outside_perm : (outside wanted kind hooks').Perm (outside wanted kind hooks) := by
  rw [outside, outside, choose_perm reordered]
  exact reordered.filter _

theorem operations_changes_perm (distinct : (hooks.map Webhook.id).Nodup) :
    (changes wanted kind hooks').map Call.operation =
      (changes wanted kind hooks).map Call.operation := by
  have perm := gathered_perm reordered wanted (choose wanted kind hooks)
  rw [operations_changes distinct, operations_changes ((reordered.map _).nodup_iff.mpr distinct),
    choose_perm reordered, perm.length_eq, perm.any_eq, perm.isEmpty_eq]

/-- Whichever webhook is kept, it becomes the same but for its id. -/
theorem outcome_perm (nextId : Int64) :
    (outcome wanted kind hooks' nextId).unnumbered =
      (outcome wanted kind hooks nextId).unnumbered := by
  have sameNone : anchor? wanted (choose wanted kind hooks) hooks' = none ↔
      anchor? wanted (choose wanted kind hooks) hooks = none := by
    have perm := gathered_perm reordered wanted (choose wanted kind hooks)
    rw [anchor?_eq_none_iff, anchor?_eq_none_iff, ← List.isEmpty_iff, perm.isEmpty_eq,
      List.isEmpty_iff]
  unfold outcome
  rw [choose_perm reordered]
  cases found : anchor? wanted (choose wanted kind hooks) hooks with
  | none => rw [sameNone.mpr found]
  | some anchor =>
      cases found' : anchor? wanted (choose wanted kind hooks) hooks' with
      | none => rw [sameNone.mp found'] at found; cases found
      | some anchor' => rfl

end Reordered

/-- With the webhooks of the repository in another order and nothing set to fail, a reconciliation
makes calls of the same kinds, ends with a webhook that is the same but for its id, and leaves the
same webhooks behind but for their ids and their order. -/
theorem reconcile_ignores_order {store : Store} {wanted : Subscription} {hooks : List Webhook}
    (calm : store.Calm) (distinct : ((store.webhooks wanted.repository).map Webhook.id).Nodup)
    (reordered : hooks.Perm (store.webhooks wanted.repository)) :
    ∃ result after calls result' after' calls',
      store.run (reconcile wanted) = (.ok result, after) ∧
        after.journal = store.journal ++ calls ∧
        (store.setWebhooks wanted.repository hooks).run (reconcile wanted) = (.ok result', after') ∧
        after'.journal = store.journal ++ calls' ∧
        calls'.map Call.operation = calls.map Call.operation ∧
        result'.map Webhook.unnumbered = result.map Webhook.unnumbered ∧
        ((after'.webhooks wanted.repository).map Webhook.unnumbered).Perm
          ((after.webhooks wanted.repository).map Webhook.unnumbered) := by
  let other := store.setWebhooks wanted.repository hooks
  have calmOther : other.Calm := calm
  have listed : other.webhooks wanted.repository = hooks := by simp [other, Store.setWebhooks]
  have distinctOther : ((other.webhooks wanted.repository).map Webhook.id).Nodup := by
    rw [listed]
    exact (reordered.map _).nodup_iff.mpr distinct
  rcases wantedEvents_cases store.capabilities wanted with nothing | ⟨kind, asked⟩
  · refine ⟨none, _, _, none, _, _, run_reconcile_of_empty calm nothing, rfl,
      run_reconcile_of_empty calmOther nothing, rfl, rfl, rfl, ?_⟩
    change ((other.webhooks wanted.repository).map _).Perm _
    rw [listed]
    exact reordered.map _
  · refine ⟨_, _, _, _, _, _, run_reconcile_of_distinct calm distinct asked, rfl,
      run_reconcile_of_distinct calmOther distinctOther asked, rfl, ?_, ?_, ?_⟩
    · rw [listed, List.map_append, operations_changes_perm reordered distinct, ← List.map_append]
    · rw [listed]
      exact congrArg some (outcome_perm reordered store.nextId)
    · refine ((perm_completed distinctOther).map _).trans ?_
      refine List.Perm.trans ?_ ((perm_completed distinct).map _).symm
      rw [listed, List.map_cons, List.map_cons]
      change ((outcome wanted kind hooks store.nextId).unnumbered :: _).Perm _
      rw [outcome_perm reordered store.nextId]
      exact ((outside_perm reordered).map _).cons _

/-- The first webhook of the listing is kept, whichever it is, and the others are deleted. -/
theorem reconcile_ignores_order_of_misfits :
    let first : Webhook := ⟨1, "ci", EventSet.refChange.names, "https://old", true⟩
    let second : Webhook := ⟨2, "ci", EventSet.refAndPullRequest.names, "https://ci", false⟩
    let third : Webhook := ⟨3, "former", EventSet.pullRequest.names, "https://ci", true⟩
    let store := Store.empty.setWebhooks ⟨"P", "r"⟩ [first, second, third]
    let wanted : Subscription := ⟨⟨"P", "r"⟩, "ci", "https://ci", false, true, true⟩
    let kept (id : Int64) : Webhook :=
      ⟨id, "ci", EventSet.refAndPullRequest.names, "https://ci", true⟩
    let calls (id duplicate another : Int64) : List Call := [.list wanted.repository Event.all,
      .update wanted.repository id "ci" .refAndPullRequest "https://ci",
      .delete wanted.repository duplicate, .delete wanted.repository another]
    store.Calm ∧ ((store.webhooks wanted.repository).map Webhook.id).Nodup ∧
      [third, first, second].Perm (store.webhooks wanted.repository) ∧
      ∃ after after', store.run (reconcile wanted) = (.ok (some (kept 1)), after) ∧
        after.journal = calls 1 2 3 ∧
        (store.setWebhooks wanted.repository [third, first, second]).run (reconcile wanted) =
          (.ok (some (kept 3)), after') ∧
        after'.journal = calls 3 1 2 ∧
        (calls 3 1 2).map Call.operation = (calls 1 2 3).map Call.operation ∧
        (kept 3).unnumbered = (kept 1).unnumbered ∧
        after.webhooks wanted.repository = [kept 1] ∧
        ((after'.webhooks wanted.repository).map Webhook.unnumbered).Perm
          [(kept 1).unnumbered] := by
  intro first second third store wanted kept calls
  have calm : store.Calm := Store.calm_empty
  have distinct : ((store.webhooks wanted.repository).map Webhook.id).Nodup := by decide
  have reordered : [third, first, second].Perm (store.webhooks wanted.repository) := by decide
  let other := store.setWebhooks wanted.repository [third, first, second]
  have reconciles : (store.run (reconcile wanted)).1.toOption = some (some (kept 1)) := by
    decide +kernel
  have recorded : (store.run (reconcile wanted)).2.journal = calls 1 2 3 := by decide +kernel
  have left : (store.run (reconcile wanted)).2.webhooks wanted.repository = [kept 1] := by
    decide +kernel
  have reconciles' : (other.run (reconcile wanted)).1.toOption = some (some (kept 3)) := by
    decide +kernel
  have recorded' : (other.run (reconcile wanted)).2.journal = calls 3 1 2 := by decide +kernel
  obtain ⟨result, after, made, result', after', made', run, isMade, run', isMade', sameKinds,
    sameResult, sameWebhooks⟩ := reconcile_ignores_order calm distinct reordered
  rw [run] at reconciles recorded left
  rw [run'] at reconciles' recorded'
  obtain rfl : some (kept 1) = result := (Option.some.inj reconciles).symm
  obtain rfl : some (kept 3) = result' := (Option.some.inj reconciles').symm
  obtain rfl : calls 1 2 3 = made := recorded.symm.trans isMade
  obtain rfl : calls 3 1 2 = made' := recorded'.symm.trans isMade'
  rw [left] at sameWebhooks
  exact ⟨calm, distinct, reordered, after, after', run, isMade, run', isMade', sameKinds,
    Option.some.inj sameResult, left, sameWebhooks⟩

end WebhookSync.Reconcile
