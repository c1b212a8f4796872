import Mathlib.Data.List.Count
import Mathlib.Data.List.Induction
import WebhookSync.Proofs.Economy
import WebhookSync.Proofs.Reconcile.Agreement

/-!
# Webhooks that are listed twice

Ids need not be distinct: a collection that changes while its pages are read can tell a webhook
twice.  A reconciliation deletes by the id, one call for each surplus webhook, so it stops with a
failure at the first id that it has deleted before.  It comes to a good end, and deletes no id
twice, just when the surplus webhooks have distinct ids (`succeeds_iff_surplus_distinct`); a
repeated id that is that of the kept webhook does no harm.
-/

namespace WebhookSync.Reconcile

open Gateway (Call Store)

/-! ## Repeated ids -/

/-- What has repetitions has a first one: an entry that occurs before, behind entries that are all
different. -/
theorem exists_first_repetition {ids : List Int64} (repeats : ¬ids.Nodup) :
    ∃ before id rest, ids = before ++ id :: rest ∧ before.Nodup ∧ id ∈ before := by
  induction ids using List.reverseRec with
  | nil => exact absurd List.nodup_nil repeats
  | append_singleton front last inductionHypothesis =>
      by_cases distinct : front.Nodup
      · refine ⟨front, last, [], rfl, distinct, ?_⟩
        by_contra fresh
        exact repeats (List.nodup_append.mpr ⟨distinct, List.nodup_singleton last,
          fun id member other isLast same =>
            fresh (List.mem_singleton.mp isLast ▸ same ▸ member)⟩)
      · obtain ⟨before, id, rest, rfl, isDistinct, occurs⟩ := inductionHypothesis distinct
        exact ⟨before, id, rest ++ [last], by simp, isDistinct, occurs⟩

/-! ## Deletions one after the other -/

section Deletions

variable {α : Type} {repository : Repository} {store : Store}

/-- Webhooks that are there, with distinct ids, are deleted without a failure, and what is to be
done behind them goes on with a store that has their ids no more. -/
theorem run_deleteAll_append (result : α) {before : List Webhook} (rest : List Webhook)
    (calm : store.Calm) (distinct : (before.map Webhook.id).Nodup)
    (there : ∀ hook ∈ before, present store repository hook.id = true) :
    ∃ after : Store, after.Calm ∧
      after.journal = store.journal ++ deletions repository before ∧
      (∀ id, present after repository id =
        (present store repository id && decide (id ∉ before.map Webhook.id))) ∧
      store.run (deleteAll repository result (before ++ rest)) =
        after.run (deleteAll repository result rest) := by
  induction before generalizing store with
  | nil => exact ⟨store, calm, (List.append_nil _).symm, by simp, rfl⟩
  | cons hook before inductionHypothesis =>
      obtain ⟨unlike, distinct⟩ := List.nodup_cons.mp distinct
      have deleted : (store.perform (.delete repository hook.id)).1 = .ok () := by
        rw [perform_delete_eq, there hook List.mem_cons_self]
        rfl
      let next : Store := { (store.perform (.delete repository hook.id)).2 with
        journal := store.journal ++ [.delete repository hook.id] }
      have left (id : Int64) : present next repository id =
          (present store repository id && decide (id ≠ hook.id)) :=
        present_perform_delete store repository hook.id id
      obtain ⟨after, calmAfter, recorded, remains, run⟩ := @inductionHypothesis next
        (calm.perform (.delete repository hook.id)) distinct (by
          intro other member
          rw [left, there other (List.mem_cons_of_mem hook member), Bool.true_and]
          exact decide_eq_true fun same => unlike (same ▸ List.mem_map_of_mem member))
      refine ⟨after, calmAfter, ?_, ?_, ?_⟩
      · rw [recorded, List.append_assoc]
        rfl
      · intro id
        rw [remains, left, List.map_cons, Bool.and_assoc, ← Bool.decide_and]
        simp only [List.mem_cons, not_or]
      · rw [List.cons_append, deleteAll, Store.run_require_of_ok (calm _) deleted]
        exact run

/-- Webhooks that are there, with distinct ids, are all deleted. -/
theorem run_deleteAll_of_distinct (result : α) {hooks : List Webhook} (calm : store.Calm)
    (distinct : (hooks.map Webhook.id).Nodup)
    (there : ∀ hook ∈ hooks, present store repository hook.id = true) :
    (store.run (deleteAll repository result hooks)).1 = .ok result ∧
      (store.run (deleteAll repository result hooks)).2.journal =
        store.journal ++ deletions repository hooks := by
  obtain ⟨after, _, recorded, _, run⟩ :=
    run_deleteAll_append result [] calm distinct there
  rw [List.append_nil] at run
  rw [run]
  exact ⟨rfl, recorded⟩

/-- At an id that was deleted before, deleting fails. -/
theorem run_deleteAll_of_repeated (result : α) {before : List Webhook} {gone : Webhook}
    (rest : List Webhook) (calm : store.Calm) (distinct : (before.map Webhook.id).Nodup)
    (there : ∀ hook ∈ before, present store repository hook.id = true)
    (repeated : gone.id ∈ before.map Webhook.id) :
    (store.run (deleteAll repository result (before ++ gone :: rest))).1 =
        .error (Store.noSuchWebhook gone.id) ∧
      (store.run (deleteAll repository result (before ++ gone :: rest))).2.journal =
        store.journal ++ deletions repository (before ++ [gone]) := by
  obtain ⟨after, calmAfter, recorded, remains, run⟩ :=
    run_deleteAll_append result (gone :: rest) calm distinct there
  have absent : (after.perform (.delete repository gone.id)).1 =
      .error (Store.noSuchWebhook gone.id) := by
    rw [perform_delete_eq, remains, decide_eq_false (not_not.mpr repeated), Bool.and_false]
    rfl
  rw [run, deleteAll, Dialogue.require, Store.run_ask_of_passes after _ (calmAfter _), absent]
  refine ⟨rfl, ?_⟩
  change after.journal ++ _ = _
  rw [recorded, deletions, deletions, List.map_append, List.append_assoc]
  rfl

end Deletions

/-! ## What is surplus -/

/-- The webhooks that a reconciliation deletes which finds these own webhooks: of the bucket on
which it works, those with another id than the one to keep.  The first that is up to date is kept,
or else the first. -/
def surplus (wanted : Subscription) (events : EventSet) (own : List Webhook) : List Webhook :=
  let bucket := workBucket events own own
  let kept? := (bucket.find? fun hook =>
    hook.isUpToDate wanted.name wanted.callbackUrl (workTarget events own)).or bucket.head?
  match kept? with
  | none => []
  | some kept => if events.isEmpty then [] else bucket.filter fun hook => hook.id != kept.id

theorem surplus_eq (wanted : Subscription) (kind : Shape) (hooks : List Webhook) :
    surplus wanted kind.events (owned wanted hooks) =
      match anchor? wanted (choose wanted kind hooks) hooks with
      | none => []
      | some anchor => others wanted (choose wanted kind hooks) anchor hooks := by
  simp only [surplus, workBucket_eq, workTarget_eq, kind.events_isEmpty, Bool.false_eq_true,
    if_false]
  rfl

/-- What is surplus depends on the listed webhooks alone. -/
theorem surplus_listed (wanted : Subscription) (kind : Shape) (hooks : List Webhook) :
    surplus wanted kind.events
        (owned wanted (hooks.filter fun hook => Event.all.any hook.subscribesTo)) =
      surplus wanted kind.events (owned wanted hooks) := by
  simp only [surplus_eq, others, anchor?, choose_listed, gathered_listed]

theorem surplus_of_empty (wanted : Subscription) (own : List Webhook) :
    surplus wanted .empty own = [] := by
  simp only [surplus]
  split <;> rfl

/-- The calls that delete a webhook of an id. -/
theorem count_deletions (repository : Repository) (hooks : List Webhook) (id : Int64) :
    (deletions repository hooks).count (.delete repository id) =
      (hooks.map Webhook.id).count id := by
  have injective : Function.Injective (Call.delete repository) :=
    fun _ _ same => (Call.delete.inj same).2
  rw [← List.count_map_of_injective _ _ injective, List.map_map]
  rfl

/-! ## The settled course -/

/-- How a reconciliation ends that has to delete webhooks with these ids. -/
inductive Clears {α : Type} (repository : Repository) (ids : List Int64) (calls : List Call) :
    Except Failure α → Prop where
  | well (value : α) (distinct : ids.Nodup)
      (once : ∀ id, calls.count (.delete repository id) ≤ 1) :
      Clears repository ids calls (.ok value)
  | badly (id : Int64) (repeats : ¬ids.Nodup)
      (twice : calls.count (.delete repository id) = 2) :
      Clears repository ids calls (.error (Store.noSuchWebhook id))

/-- What comes before the deletions does not count. -/
theorem Clears.behind {α : Type} {repository : Repository} {ids : List Int64} {calls : List Call}
    {result : Except Failure α} (clears : Clears repository ids calls result) {before : List Call}
    (others : ∀ call ∈ before, call.operation ≠ .delete) :
    Clears repository ids (before ++ calls) result := by
  have counts (id : Int64) : (before ++ calls).count (.delete repository id) =
      calls.count (.delete repository id) := by
    have none : before.count (.delete repository id) = 0 :=
      List.count_eq_zero.mpr fun member => others _ member rfl
    rw [List.count_append, none, Nat.zero_add]
  cases clears with
  | well value distinct once =>
      refine .well value distinct fun id => ?_
      rw [counts]
      exact once id
  | badly id repeats twice =>
      refine .badly id repeats ?_
      rw [counts, twice]

/-- Webhooks that are there are all deleted, or deleting them fails at a repeated id. -/
theorem clears_deleteAll {α : Type} {repository : Repository} {store : Store} (result : α)
    {hooks : List Webhook} (calm : store.Calm)
    (there : ∀ hook ∈ hooks, present store repository hook.id = true) :
    ∃ calls, (store.run (deleteAll repository result hooks)).2.journal = store.journal ++ calls ∧
      Clears repository (hooks.map Webhook.id) calls
        (store.run (deleteAll repository result hooks)).1 := by
  by_cases distinct : (hooks.map Webhook.id).Nodup
  · obtain ⟨succeeds, recorded⟩ := run_deleteAll_of_distinct result calm distinct there
    rw [succeeds]
    refine ⟨_, recorded, .well result distinct fun id => ?_⟩
    rw [count_deletions]
    exact List.nodup_iff_count_le_one.mp distinct id
  · obtain ⟨ids, id, others, split, isDistinct, occurs⟩ := exists_first_repetition distinct
    obtain ⟨before, behind, rfl, rfl, isBehind⟩ := List.map_eq_append_iff.mp split
    obtain ⟨gone, rest, rfl, rfl, rfl⟩ := List.map_eq_cons_iff.mp isBehind
    obtain ⟨fails, recorded⟩ := run_deleteAll_of_repeated result rest calm isDistinct
      (fun hook member => there hook (List.mem_append_left _ member)) occurs
    rw [fails]
    refine ⟨_, recorded, .badly gone.id distinct ?_⟩
    rw [count_deletions, List.map_append, List.count_append,
      List.count_eq_one_of_mem isDistinct occurs, List.map_singleton, List.count_singleton_self]

section Settled

variable {store : Store} {wanted : Subscription} {kind : Shape}

/-- Before it deletes anything, the settled course creates a webhook or rewrites the one to keep, or
it does neither.  The surplus webhooks are still there then. -/
theorem run_settle_eq_deleteAll (calm : store.Calm) :
    let hooks := store.webhooks wanted.repository
    let surplus := surplus wanted kind.events (owned wanted hooks)
    ∃ (kept : Webhook) (opening : List Call) (after : Store), after.Calm ∧
      after.journal = store.journal ++ opening ∧
      (∀ call ∈ opening, call.operation ≠ .delete) ∧
      (∀ hook ∈ surplus, present after wanted.repository hook.id = true) ∧
      store.run (settle wanted kind hooks) =
        after.run (deleteAll wanted.repository (some kept) surplus) := by
  intro hooks surplus
  let behind (call : Call) : Store :=
    { (store.perform call).2 with journal := store.journal ++ [call] }
  cases found : anchor? wanted (choose wanted kind hooks) hooks with
  | none =>
      have nothing : surplus = [] := by
        rw [show surplus = _ from surplus_eq wanted kind hooks, found]
      let create : Call :=
        .create wanted.repository wanted.name kind.events wanted.callbackUrl
      refine ⟨fresh wanted kind store.nextId, [create], behind create, calm.perform create, rfl,
        ?_, ?_, ?_⟩
      · simp [create, Call.operation]
      · simp [nothing]
      · rw [settle_of_none found, creation, Store.run_require_of_ok (calm _) rfl, nothing]
        rfl
  | some anchor =>
      have isOthers : surplus = others wanted (choose wanted kind hooks) anchor hooks := by
        rw [show surplus = _ from surplus_eq wanted kind hooks, found]
      have thereAtFirst : ∀ hook ∈ surplus, present store wanted.repository hook.id = true := by
        rw [isOthers]
        exact fun hook member => present_of_mem (mem_gathered.mp (mem_others.mp member).1).1
      cases fit : fits wanted (choose wanted kind hooks) anchor with
      | true =>
          refine ⟨anchor, [], store, calm, (List.append_nil _).symm, List.forall_mem_nil _,
            thereAtFirst, ?_⟩
          rw [settle_of_fit found fit, isOthers]
      | false =>
          let update : Call := .update wanted.repository anchor.id wanted.name
            (choose wanted kind hooks).events wanted.callbackUrl
          have updated := perform_update_eq store wanted.repository anchor.id wanted.name
            (choose wanted kind hooks).events wanted.callbackUrl
          rw [present_of_mem (mem_gathered.mp (anchor_mem found)).1, if_pos rfl] at updated
          refine ⟨anchor.rewrittenFor wanted (choose wanted kind hooks).events, [update],
            behind update, calm.perform update, rfl, ?_, ?_, ?_⟩
          · simp [update, Call.operation]
          · intro hook member
            exact (present_perform_update store wanted.repository anchor.id hook.id _ _ _).trans
              (thereAtFirst hook member)
          · rw [settle_of_unfit found fit, Store.run_require_of_ok (calm _) updated, isOthers]
            rfl

/-- The settled course clears the surplus webhooks away, or fails at a repeated id. -/
theorem clears_settle (calm : store.Calm) :
    let run := store.run (settle wanted kind (store.webhooks wanted.repository))
    ∃ calls, run.2.journal = store.journal ++ calls ∧
      Clears wanted.repository ((surplus wanted kind.events
        (owned wanted (store.webhooks wanted.repository))).map Webhook.id) calls run.1 := by
  intro run
  obtain ⟨kept, opening, after, calmAfter, opened, others, there, continues⟩ :=
    @run_settle_eq_deleteAll store wanted kind calm
  obtain ⟨calls, recorded, clears⟩ := clears_deleteAll (some kept) calmAfter there
  rw [show run = _ from continues, recorded, opened, List.append_assoc]
  exact ⟨opening ++ calls, rfl, clears.behind others⟩

end Settled

/-! ## The whole run -/

theorem operation_ne_delete_of_mem_questions {wanted : Subscription} {call : Call}
    (member : call ∈ probes wanted ++ [.list wanted.repository Event.all]) :
    call.operation ≠ .delete := by
  rcases List.mem_append.mp member with probing | listing
  · have reads := isMutation_of_mem_probes probing
    cases call <;> simp_all [Call.operation, Call.isMutation]
  · rw [List.mem_singleton.mp listing]
    simp [Call.operation]

/-- A reconciliation clears the surplus webhooks away, or fails at a repeated id. -/
theorem clears_reconcile {store : Store} (calm : store.Calm) (wanted : Subscription) :
    let listed := (store.webhooks wanted.repository).filter fun hook =>
      Event.all.any hook.subscribesTo
    ∃ calls, (store.run (reconcile wanted)).2.journal = store.journal ++ calls ∧
      Clears wanted.repository ((surplus wanted (wantedEvents store.capabilities wanted)
        (owned wanted listed)).map Webhook.id) calls (store.run (reconcile wanted)).1 := by
  intro listed
  have questions : ∀ call ∈ probes wanted ++ [.list wanted.repository Event.all],
      call.operation ≠ .delete := fun call => operation_ne_delete_of_mem_questions
  rcases wantedEvents_cases store.capabilities wanted with nothing | ⟨kind, asked⟩
  · rw [run_reconcile_of_empty calm nothing, nothing, surplus_of_empty]
    refine ⟨probes wanted, rfl, .well none List.nodup_nil fun id => ?_⟩
    rw [List.count_eq_zero.mpr fun member => questions _ (List.mem_append_left _ member) rfl]
    exact Nat.zero_le 1
  · obtain ⟨calls, recorded, clears⟩ := @clears_settle { store with journal :=
      store.journal ++ (probes wanted ++ [.list wanted.repository Event.all]) } wanted kind calm
    rw [run_reconcile_eq_settle calm asked, recorded, List.append_assoc, asked, surplus_listed]
    exact ⟨_, rfl, clears.behind questions⟩

/-- Where nothing is set to fail, a reconciliation succeeds just when the ids of the surplus
webhooks are distinct, and just then it deletes no id twice.  Else it fails because there is no
webhook with an id that it has deleted before. -/
theorem succeeds_iff_surplus_distinct {store : Store} {wanted : Subscription}
    (calm : store.Calm) :
    ∃ events own calls, (store.run (resolveEvents wanted)).1 = .ok events ∧
      (store.run (listOwned wanted)).1 = .ok own ∧
      (store.run (reconcile wanted)).2.journal = store.journal ++ calls ∧
      ((∃ webhook, (store.run (reconcile wanted)).1 = .ok webhook) ↔
        ((surplus wanted events own).map Webhook.id).Nodup) ∧
      ((∀ id, calls.count (.delete wanted.repository id) ≤ 1) ↔
        ((surplus wanted events own).map Webhook.id).Nodup) ∧
      ∀ failure, (store.run (reconcile wanted)).1 = .error failure →
        ∃ id, failure = Store.noSuchWebhook id ∧
          calls.count (.delete wanted.repository id) = 2 := by
  obtain ⟨calls, recorded, clears⟩ := clears_reconcile calm wanted
  refine ⟨_, _, calls, congrArg Prod.fst (run_resolveEvents calm wanted),
    run_listOwned store wanted (calm .list), recorded, ?_⟩
  generalize (store.run (reconcile wanted)).1 = result at clears
  cases clears with
  | well value distinct once =>
      refine ⟨iff_of_true ⟨value, rfl⟩ distinct, iff_of_true once distinct, fun failure fails => ?_⟩
      cases fails
  | badly id repeats twice =>
      refine ⟨iff_of_false ?_ repeats, iff_of_false ?_ repeats, fun failure fails => ?_⟩
      · rintro ⟨webhook, succeeds⟩
        cases succeeds
      · intro once
        have single := once id
        omega
      · exact ⟨id, (Except.error.inj fails).symm, twice⟩

/-- The kept webhook is listed twice, and so is one of somebody else. -/
theorem succeeds_iff_surplus_distinct_kept_twice :
    let kept : Webhook := ⟨1, "ci", EventSet.refAndPullRequest.names, "https://ci", true⟩
    let other : Webhook := ⟨2, "other", EventSet.refChange.names, "https://other", true⟩
    let narrow : Webhook := ⟨3, "ci", EventSet.pullRequest.names, "https://old", true⟩
    let store := { Store.empty.setWebhooks ⟨"P", "r"⟩ [narrow, kept, other, other, kept] with
      nextId := 4 }
    let wanted : Subscription := ⟨⟨"P", "r"⟩, "ci", "https://ci", false, true, true⟩
    store.Calm ∧
      ∃ webhook calls, (store.run (reconcile wanted)).1 = .ok webhook ∧
        (store.run (reconcile wanted)).2.journal = calls ∧
        ∀ id, calls.count (.delete wanted.repository id) ≤ 1 := by
  intro kept other narrow store wanted
  have calm : store.Calm := Store.calm_empty
  obtain ⟨events, own, calls, resolved, listed, recorded, succeeds, once, _⟩ :=
    @succeeds_iff_surplus_distinct store wanted calm
  obtain rfl : wanted.triggeredEvents = events := Except.ok.inj resolved
  obtain rfl : [narrow, kept, kept] = own := Except.ok.inj listed
  have distinct : ((surplus wanted wanted.triggeredEvents [narrow, kept, kept]).map
      Webhook.id).Nodup := by decide
  obtain ⟨webhook, isOk⟩ := succeeds.mpr distinct
  exact ⟨calm, webhook, calls, isOk, recorded, once.mpr distinct⟩

/-- A webhook that is listed twice, and is not the one to keep, is deleted twice, and the
reconciliation fails although nothing is left to do. -/
theorem listed_twice_deleted_twice :
    let wanted : Subscription := ⟨⟨"PROJ", "service"⟩, "ci",
      Subscription.callbackUrlOf "https://ci.example.com", false, true, true⟩
    let kept : Webhook := ⟨1, "ci", EventSet.refAndPullRequest.names, wanted.callbackUrl, true⟩
    let double : Webhook := ⟨2, "ci", EventSet.refChange.names, "https://old.example.com", true⟩
    ∃ store : Store,
      [kept, double, double].foldlM
          (fun store hook => store.insertWebhook? wanted.repository hook) Store.empty =
        some store ∧
      store.Calm ∧ (store.run (reconcile wanted)).2.webhooks wanted.repository = [kept] ∧
      ¬((∃ webhook, (store.run (reconcile wanted)).1 = .ok webhook) ∧
        ∀ id, (store.run (reconcile wanted)).2.journal.count (.delete wanted.repository id) ≤
          1) := by
  intro wanted kept double
  refine ⟨_, rfl, fun _ => rfl, by decide, ?_⟩
  rintro ⟨_, once⟩
  exact absurd (once 2) (by decide)

end WebhookSync.Reconcile
