import WebhookSync.Proofs.Reconcile.Run

/-!
# Agreement of stores

What a reconciliation does depends on the listing alone, whatever else the repository holds, and
also where ids are repeated: with two stores that list the same webhooks it makes the same calls and
comes to the same result, but for the id of a webhook that it creates (`reconcile_agrees`).  For of
the webhooks that are listed, a call finds the id with both stores or with neither.
-/

namespace WebhookSync.Reconcile

open Gateway (Call Session Store)

/-! ## Ids that are present -/

/-- Whether some webhook of the repository has the id. -/
def present (store : Store) (repository : Repository) (id : Int64) : Bool :=
  (store.webhooks repository).any fun hook => hook.id = id

theorem present_iff {store : Store} {repository : Repository} {id : Int64} :
    present store repository id = true ↔ ∃ hook ∈ store.webhooks repository, hook.id = id := by
  simp only [present, List.any_eq_true, decide_eq_true_eq]

theorem present_of_mem {store : Store} {repository : Repository} {hook : Webhook}
    (member : hook ∈ store.webhooks repository) : present store repository hook.id = true :=
  present_iff.mpr ⟨hook, member, rfl⟩

/-- An update succeeds where the id is present, and all but the id is told by the call. -/
theorem perform_update_eq (store : Store) (repository : Repository) (id : Int64) (name : String)
    (events : EventSet) (url : String) :
    (store.perform (.update repository id name events url)).1 =
      if present store repository id then .ok ⟨id, name, events.names, url, true⟩
      else .error (Store.noSuchWebhook id) := by
  cases found : (store.webhooks repository).find? (·.id = id) with
  | none =>
      have absent : present store repository id = false := by
        rw [Bool.eq_false_iff]
        intro isPresent
        obtain ⟨hook, member, same⟩ := present_iff.mp isPresent
        exact List.find?_eq_none.mp found hook member (decide_eq_true same)
      simp only [Store.perform, found, absent, Bool.false_eq_true, if_false]
  | some hook =>
      have sameId : hook.id = id := by simpa using List.find?_some found
      have isPresent : present store repository id = true :=
        present_iff.mpr ⟨hook, List.mem_of_find?_eq_some found, sameId⟩
      simp only [Store.perform, found, isPresent, if_true, sameId]

theorem perform_delete_eq (store : Store) (repository : Repository) (id : Int64) :
    (store.perform (.delete repository id)).1 =
      if present store repository id then .ok () else .error (Store.noSuchWebhook id) := by
  simp only [Store.perform]
  cases isPresent : (store.webhooks repository).any (·.id = id) with
  | true => simp only [present, isPresent, if_true]
  | false => simp only [present, isPresent, Bool.false_eq_true, if_false]

theorem present_perform_update (store : Store) (repository : Repository) (id other : Int64)
    (name : String) (events : EventSet) (url : String) :
    present (store.perform (.update repository id name events url)).2 repository other =
      present store repository other := by
  have sameIds := Store.ids_perform_update store repository id name events url
  have present_eq (some : Store) : present some repository other =
      ((some.webhooks repository).map Webhook.id).contains other := by
    rw [Bool.eq_iff_iff, present_iff, List.contains_iff_mem, List.mem_map]
  rw [present_eq, present_eq, sameIds]

theorem present_perform_delete (store : Store) (repository : Repository) (id other : Int64) :
    present (store.perform (.delete repository id)).2 repository other =
      (present store repository other && decide (other ≠ id)) := by
  rw [Bool.eq_iff_iff, Bool.and_eq_true, present_iff, present_iff, decide_eq_true_iff,
    Store.webhooks_perform_delete]
  constructor
  · rintro ⟨hook, member, rfl⟩
    obtain ⟨listed, different⟩ := List.mem_filter.mp member
    exact ⟨⟨hook, listed, rfl⟩, of_decide_eq_true different⟩
  · rintro ⟨⟨hook, listed, rfl⟩, different⟩
    exact ⟨hook, List.mem_filter.mpr ⟨listed, decide_eq_true different⟩, rfl⟩

/-! ## Sessions in step -/

/-- With both stores, a session comes to the same result by the same calls. -/
def Agree {α : Type} (first second : Store) (session : Session α) : Prop :=
  (first.run session).1 = (second.run session).1 ∧
    ∃ calls, (first.run session).2.journal = first.journal ++ calls ∧
      (second.run session).2.journal = second.journal ++ calls

theorem agree_done {α : Type} (first second : Store) (result : α) :
    Agree first second (.done result) :=
  ⟨rfl, [], (List.append_nil _).symm, (List.append_nil _).symm⟩

/-- Stores that reply in the same way agree if they agree from then on. -/
theorem agree_require {α : Type} {first second : Store} {call : Call}
    {next : call.Reply → Session (Except Failure α)} (firstCalm : first.Calm)
    (secondCalm : second.Calm) (sameReply : (first.perform call).1 = (second.perform call).1)
    (onward : ∀ reply, (first.perform call).1 = .ok reply →
      Agree { (first.perform call).2 with journal := first.journal ++ [call] }
        { (second.perform call).2 with journal := second.journal ++ [call] } (next reply)) :
    Agree first second (.require call next) := by
  rw [Agree, Dialogue.require, Store.run_ask_of_passes first _ (firstCalm _),
    Store.run_ask_of_passes second _ (secondCalm _)]
  cases reply : (first.perform call).1 with
  | error failure =>
      rw [← sameReply, reply]
      exact ⟨rfl, [call], rfl, rfl⟩
  | ok reply' =>
      rw [← sameReply, reply]
      obtain ⟨sameResult, calls, firstCalls, secondCalls⟩ := onward reply' reply
      refine ⟨sameResult, call :: calls, ?_, ?_⟩
      · rw [firstCalls, List.append_assoc]
        rfl
      · rw [secondCalls, List.append_assoc]
        rfl

section InStep

variable {first second : Store}

/-- Where ids are present with both stores or with neither, webhooks are deleted in step. -/
theorem agree_deleteAll {α : Type} (repository : Repository) (result : α) {hooks : List Webhook}
    (firstCalm : first.Calm) (secondCalm : second.Calm)
    (samePresent : ∀ hook ∈ hooks,
      present first repository hook.id = present second repository hook.id) :
    Agree first second (deleteAll repository result hooks) := by
  induction hooks generalizing first second with
  | nil => exact agree_done first second _
  | cons hook rest inductionHypothesis =>
      have sameReply : (first.perform (.delete repository hook.id)).1 =
          (second.perform (.delete repository hook.id)).1 := by
        rw [perform_delete_eq, perform_delete_eq, samePresent hook List.mem_cons_self]
      refine agree_require firstCalm secondCalm sameReply fun reply _ => ?_
      refine inductionHypothesis (firstCalm.perform (.delete repository hook.id))
        (secondCalm.perform (.delete repository hook.id)) fun other member => ?_
      have samePresentOther := samePresent other (List.mem_cons_of_mem hook member)
      change present (first.perform _).2 repository _ = present (second.perform _).2 repository _
      rw [present_perform_delete, present_perform_delete, samePresentOther]

/-- Where the ids of listed webhooks are present with both stores, a webhook is kept in step. -/
theorem agree_keep {wanted : Subscription} (shape : Shape) {anchor : Webhook} {hooks : List Webhook}
    (firstCalm : first.Calm) (secondCalm : second.Calm)
    (samePresent : ∀ id, id ∈ hooks.map Webhook.id →
      present first wanted.repository id = present second wanted.repository id)
    (member : anchor ∈ hooks) : Agree first second (keep wanted shape anchor hooks) := by
  have presentOthers : ∀ hook ∈ others wanted shape anchor hooks,
      present first wanted.repository hook.id = present second wanted.repository hook.id := by
    intro hook other
    have listed := (mem_gathered.mp (mem_others.mp other).1).1
    exact samePresent hook.id (List.mem_map_of_mem listed)
  unfold keep
  split
  · exact agree_deleteAll _ _ firstCalm secondCalm presentOthers
  · have samePresentAnchor := samePresent anchor.id (List.mem_map_of_mem member)
    refine agree_require firstCalm secondCalm ?_ fun updated _ => ?_
    · rw [perform_update_eq, perform_update_eq, samePresentAnchor]
    · refine agree_deleteAll _ _ (firstCalm.perform _) (secondCalm.perform _) fun hook other => ?_
      change present (first.perform _).2 _ _ = present (second.perform _).2 _ _
      rw [present_perform_update, present_perform_update]
      exact presentOthers hook other

end InStep

/-! ## Reconciliations in step -/

/-- With both stores, a reconciliation makes the same calls and comes to the same result, but for
the id of a webhook that it created. -/
def AgreeUpToId (first second : Store) (session : Session (Except Failure (Option Webhook))) :
    Prop :=
  ∃ calls, (first.run session).2.journal = first.journal ++ calls ∧
    (second.run session).2.journal = second.journal ++ calls ∧
    ((first.run session).1 = (second.run session).1 ∨
      (∃ call ∈ calls, call.operation = .create) ∧ ∃ hook id, hook.id = first.nextId ∧
        (first.run session).1 = .ok (some hook) ∧
        (second.run session).1 = .ok (some { hook with id }))

section Reconciliations

variable {first second : Store} {wanted : Subscription} (firstCalm : first.Calm)
  (secondCalm : second.Calm)

include firstCalm secondCalm

theorem agreeUpToId_settle (kind : Shape) {hooks : List Webhook}
    (samePresent : ∀ id, id ∈ hooks.map Webhook.id →
      present first wanted.repository id = present second wanted.repository id) :
    AgreeUpToId first second (settle wanted kind hooks) := by
  unfold settle
  cases found : anchor? wanted (choose wanted kind hooks) hooks with
  | none =>
      rw [AgreeUpToId, Store.run_require_of_ok (firstCalm _) rfl,
        Store.run_require_of_ok (secondCalm _) rfl]
      refine ⟨[.create wanted.repository wanted.name kind.events wanted.callbackUrl], rfl, rfl,
        .inr ⟨⟨_, List.mem_singleton_self _, rfl⟩, ?_⟩⟩
      exact ⟨fresh wanted kind first.nextId, second.nextId, rfl, rfl, rfl⟩
  | some anchor =>
      have member := (mem_gathered.mp (anchor_mem found)).1
      obtain ⟨sameResult, calls, firstCalls, secondCalls⟩ :=
        agree_keep (choose wanted kind hooks) firstCalm secondCalm samePresent member
      exact ⟨calls, firstCalls, secondCalls, .inl sameResult⟩

/-- Stores that list the same webhooks agree on a reconciliation. -/
theorem reconcile_agrees
    (sameEvents : wantedEvents first.capabilities wanted = wantedEvents second.capabilities wanted)
    (sameListing : ((first.webhooks wanted.repository).filter fun hook =>
        Event.all.any hook.subscribesTo) =
      (second.webhooks wanted.repository).filter fun hook => Event.all.any hook.subscribesTo) :
    AgreeUpToId first second (reconcile wanted) := by
  rcases wantedEvents_cases first.capabilities wanted with nothing | ⟨kind, asked⟩
  · rw [AgreeUpToId, run_reconcile_of_empty firstCalm nothing,
      run_reconcile_of_empty secondCalm (sameEvents.symm.trans nothing)]
    exact ⟨probes wanted, rfl, rfl, .inl rfl⟩
  · have samePresent : ∀ id, id ∈ ((first.webhooks wanted.repository).filter fun hook =>
        Event.all.any hook.subscribesTo).map Webhook.id →
        present first wanted.repository id = present second wanted.repository id := by
      intro id member
      obtain ⟨hook, listed, rfl⟩ := List.mem_map.mp member
      rw [present_of_mem (List.mem_of_mem_filter listed)]
      rw [sameListing] at listed
      rw [present_of_mem (List.mem_of_mem_filter listed)]
    have firstCalmBehind : ({ first with journal := first.journal ++
        (probes wanted ++ [.list wanted.repository Event.all]) } : Store).Calm := firstCalm
    have secondCalmBehind : ({ second with journal := second.journal ++
        (probes wanted ++ [.list wanted.repository Event.all]) } : Store).Calm := secondCalm
    have settled := agreeUpToId_settle firstCalmBehind secondCalmBehind kind samePresent
    rw [AgreeUpToId, run_reconcile_eq_settle firstCalm asked,
      run_reconcile_eq_settle secondCalm (sameEvents.symm.trans asked),
      ← settle_listed wanted kind (second.webhooks wanted.repository), ← sameListing,
      ← settle_listed wanted kind (first.webhooks wanted.repository)]
    obtain ⟨calls, firstCalls, secondCalls, sameResult⟩ := settled
    refine ⟨probes wanted ++ [.list wanted.repository Event.all] ++ calls, ?_, ?_, ?_⟩
    · rw [firstCalls, List.append_assoc]
    · rw [secondCalls, List.append_assoc]
    · rcases sameResult with same | ⟨⟨call, member, creates⟩, created⟩
      · exact .inl same
      · exact .inr ⟨⟨call, List.mem_append_right _ member, creates⟩, created⟩

end Reconciliations

end WebhookSync.Reconcile
