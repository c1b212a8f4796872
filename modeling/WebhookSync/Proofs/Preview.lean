import WebhookSync.Proofs.Reconcile.Agreement
import WebhookSync.Reconcile.Report

/-!
# Previews

A preview reconciles a copy of the listing instead of the repository itself.  Both list the same
webhooks, so the preview tells the calls of the reconciliation and its result; only the id of a new
webhook it cannot know (`preview_foresees`).  The gateway itself is asked for nothing but the
listing and what it supports.
-/

namespace WebhookSync

namespace Reconcile

open Gateway (Call Store)

/-! ## The copy -/

/-- Webhooks with an id behind their own are copied in their order. -/
theorem foldlM_insertWebhook? (repository : Repository) {hooks : List Webhook}
    (bounded : ∀ hook ∈ hooks, hook.id < Int64.maxValue) (start : Store) :
    ∃ copied, hooks.foldlM (fun store hook => store.insertWebhook? repository hook) start =
        some copied ∧
      copied.webhooks repository = start.webhooks repository ++ hooks ∧
      copied.failing = start.failing ∧ copied.journal = start.journal := by
  induction hooks generalizing start with
  | nil => exact ⟨start, rfl, (List.append_nil _).symm, rfl, rfl⟩
  | cons hook rest inductionHypothesis =>
      have notGreatest : hook.id ≠ Int64.maxValue :=
        Int64.ne_of_lt (bounded hook List.mem_cons_self)
      have inserted : start.insertWebhook? repository hook = some
          ({ start with nextId := max start.nextId (hook.id + 1) }.append repository hook) := by
        rw [Store.insertWebhook?, Store.successor?, if_neg notGreatest]
        rfl
      obtain ⟨copied, copies, listed, sameFailing, sameJournal⟩ :=
        inductionHypothesis (fun other member => bounded other (List.mem_cons_of_mem hook member))
          ({ start with nextId := max start.nextId (hook.id + 1) }.append repository hook)
      refine ⟨copied, ?_, ?_, sameFailing, sameJournal⟩
      · rw [List.foldlM_cons, inserted]
        exact copies
      · rw [listed]
        simp [Store.append, Store.setWebhooks]

theorem copy_eq_some (repository : Repository) {hooks : List Webhook}
    (bounded : ∀ hook ∈ hooks, hook.id < Int64.maxValue) :
    ∃ copied, Preview.copy repository hooks = some copied ∧
      copied.webhooks repository = hooks ∧ copied.Calm ∧ copied.journal = [] := by
  obtain ⟨copied, copies, listed, sameFailing, sameJournal⟩ :=
    foldlM_insertWebhook? repository bounded Store.empty
  refine ⟨copied, copies, ?_, ?_, sameJournal⟩
  · rw [listed]
    rfl
  · intro operation
    rw [sameFailing]
    rfl

/-! ## The preview -/

/-- A preview asks for the listing, and then perhaps for what is supported; nothing else happens. -/
theorem run_preview_reads (store : Store) (wanted : Subscription) :
    ∃ asked, (store.run (preview wanted)).2 = { store with journal := store.journal ++ asked } ∧
      (asked = [.list wanted.repository Event.all] ∨
        wanted.mirror = true ∧ asked = [.list wanted.repository Event.all, .supportedEvents]) := by
  rw [preview, Store.run, Dialogue.run_ask, Store.answer_of_noEffect (.inl rfl)]
  generalize (Store.answer (.list wanted.repository Event.all) store).1 = listing
  cases listing with
  | error failure => exact ⟨_, rfl, .inl rfl⟩
  | ok hooks =>
      cases copies : Preview.copy wanted.repository hooks with
      | none =>
          simp only [copies]
          exact ⟨_, rfl, .inl rfl⟩
      | some copied =>
          cases isMirror : wanted.mirror with
          | false =>
              simp only [copies, Bool.false_eq_true, if_false]
              exact ⟨_, rfl, .inl rfl⟩
          | true =>
              simp only [copies, if_true, Dialogue.run_ask]
              rw [Store.answer_of_noEffect (.inl rfl)]
              refine ⟨[.list wanted.repository Event.all, .supportedEvents], ?_,
                .inr ⟨trivial, rfl⟩⟩
              simp only [List.append_assoc, List.singleton_append]
              split
              · rfl
              · split <;> rfl

/-- Where nothing fails, a preview reports on a copy with the same listing and the same answer to
what is supported. -/
theorem run_preview {store : Store} {wanted : Subscription} (calm : store.Calm)
    (bounded : ∀ hook ∈ store.webhooks wanted.repository,
      Event.all.any hook.subscribesTo = true → hook.id < Int64.maxValue) :
    ∃ copied : Store, copied.Calm ∧ copied.journal = [] ∧
      copied.webhooks wanted.repository = ((store.webhooks wanted.repository).filter fun hook =>
        Event.all.any hook.subscribesTo) ∧
      wantedEvents copied.capabilities wanted = wantedEvents store.capabilities wanted ∧
      (store.run (preview wanted)).1 = Preview.report wanted copied := by
  obtain ⟨copied, copies, listed, calmCopy, empty⟩ := copy_eq_some wanted.repository
    fun hook member => bounded hook (List.mem_of_mem_filter member) (List.mem_filter.mp member).2
  rw [preview, Store.run_ask_of_passes store _ (calm _), Store.perform]
  simp only [copies]
  cases isMirror : wanted.mirror with
  | false =>
      refine ⟨copied, calmCopy, empty, listed, ?_, rfl⟩
      simp only [wantedEvents, isMirror, Bool.false_eq_true, if_false]
  | true =>
      have asks (listed : List Call) :
          ({ store with journal := listed } : Store).Calm := calm
      simp only [if_true]
      rw [Store.run_ask_of_passes _ _ (asks _ .supportedEvents)]
      cases answer : store.capabilities with
      | some events =>
          exact ⟨copied.setSupportedEvents events, calmCopy, empty, listed, rfl, rfl⟩
      | none => exact ⟨copied.setCapabilityMissing, calmCopy, empty, listed, rfl, rfl⟩

theorem report_of_ok {wanted : Subscription} {copied after : Store} {result : Option Webhook}
    (run : copied.run (reconcile wanted) = (.ok result, after)) :
    Preview.report wanted copied = .ok ⟨wanted.repository.display, true,
      (after.journal.filter Call.isMutation).map Call.describe, result⟩ := by
  simp only [Preview.report, run]

theorem report_of_error {wanted : Subscription} {copied after : Store} {failure : Failure}
    (run : copied.run (reconcile wanted) = (.error failure, after)) :
    Preview.report wanted copied = .error (.setback ⟨[], failure⟩) := by
  simp only [Preview.report, run]

/-- A preview succeeds just when the reconciliation would, where nothing fails and each listed
webhook has an id that leaves room for another behind it.  It then tells the changes of the
reconciliation, in order, and its result, but for the id of a webhook that is created.  In any case
the preview changes nothing: it asks for the listing, and then for a mirror perhaps for what is
supported. -/
theorem preview_foresees (store : Store) (wanted : Subscription) :
    (store.Calm →
      (∀ hook ∈ store.webhooks wanted.repository,
        Event.all.any hook.subscribesTo = true → hook.id < Int64.maxValue) →
      ((∃ report, (store.run (preview wanted)).1 = .ok report) ↔
        ∃ result, (store.run (reconcile wanted)).1 = .ok result) ∧
      ∀ report result, (store.run (preview wanted)).1 = .ok report →
        (store.run (reconcile wanted)).1 = .ok result →
        ∃ calls, (store.run (reconcile wanted)).2.journal = store.journal ++ calls ∧
          report.plannedCalls = (calls.filter Call.isMutation).map Call.describe ∧
          (report.webhook = result ∨
            (∃ call ∈ calls, call.operation = .create) ∧ ∃ hook id, hook.id = store.nextId ∧
              result = some hook ∧ report.webhook = some { hook with id })) ∧
      ∃ asked, (store.run (preview wanted)).2 = { store with journal := store.journal ++ asked } ∧
        (asked = [.list wanted.repository Event.all] ∨
          wanted.mirror = true ∧
            asked = [.list wanted.repository Event.all, .supportedEvents]) := by
  refine ⟨fun calm bounded => ?_, run_preview_reads store wanted⟩
  obtain ⟨copied, calmCopy, empty, listed, sameEvents, reports⟩ := run_preview calm bounded
  have sameListing : ((store.webhooks wanted.repository).filter fun hook =>
      Event.all.any hook.subscribesTo) = (copied.webhooks wanted.repository).filter fun hook =>
        Event.all.any hook.subscribesTo := by
    rw [listed, List.filter_filter]
    simp only [Bool.and_self]
  obtain ⟨calls, storeCalls, copyCalls, sameResult⟩ :=
    reconcile_agrees calm calmCopy sameEvents.symm sameListing
  rw [empty, List.nil_append] at copyCalls
  rw [reports]
  cases copyRun : copied.run (reconcile wanted) with
  | mk copyResult copyAfter =>
      rw [copyRun] at copyCalls sameResult
      simp only at copyCalls sameResult
      cases copyResult with
      | error failure =>
          rw [report_of_error copyRun]
          have failsToo : (store.run (reconcile wanted)).1 = .error failure := by
            rcases sameResult with same | ⟨_, hook, id, _, _, succeeds⟩
            · exact same
            · exact absurd succeeds (by simp)
          rw [failsToo]
          simp
      | ok webhook =>
          rw [report_of_ok copyRun]
          constructor
          · constructor
            · rintro -
              rcases sameResult with same | ⟨_, hook, id, _, succeeds, _⟩
              · exact ⟨webhook, same⟩
              · exact ⟨some hook, succeeds⟩
            · rintro -
              exact ⟨_, rfl⟩
          · intro report result isReport isResult
            obtain rfl := Except.ok.inj isReport
            refine ⟨calls, storeCalls, by rw [copyCalls], ?_⟩
            rcases sameResult with same | ⟨creates, hook, id, isNew, succeeds, copyResult⟩
            · exact .inl (Except.ok.inj (same.symm.trans isResult))
            · refine .inr ⟨creates, hook, id, isNew, ?_, Except.ok.inj copyResult⟩
              exact Except.ok.inj (isResult.symm.trans succeeds)

/-- The id that is updated belongs to a foreign webhook as well. -/
theorem preview_foresees_repeated_ids :
    let wanted : Subscription := ⟨⟨"P", "r"⟩, "ci", "https://ci", false, true, true⟩
    let store := Store.empty.setWebhooks wanted.repository
      [⟨7, "other", EventSet.refChange.names, "https://other", true⟩,
        ⟨7, "ci", EventSet.refChange.names, "https://old", true⟩,
        ⟨8, "ci", EventSet.pullRequest.names, "https://ci", true⟩]
    let kept : Webhook := ⟨7, "ci", EventSet.refAndPullRequest.names, "https://ci", true⟩
    let calls : List Call := [.list wanted.repository Event.all,
      .update wanted.repository 7 "ci" .refAndPullRequest "https://ci", .delete wanted.repository 8]
    store.Calm ∧
      (∀ hook ∈ store.webhooks wanted.repository,
        Event.all.any hook.subscribesTo = true → hook.id < Int64.maxValue) ∧
      (store.run (reconcile wanted)).1 = .ok (some kept) ∧
      (store.run (reconcile wanted)).2.journal = calls ∧
      (∃ report, (store.run (preview wanted)).1 = .ok report ∧
        report.plannedCalls = ["update webhook 7 'ci' on P/r -> https://ci " ++
          "[repo:refs_changed, pr:opened, pr:declined, pr:deleted, pr:merged]",
          "delete webhook 8 on P/r"] ∧
        report.webhook = some kept) ∧
      (store.run (preview wanted)).2 =
        { store with journal := [.list wanted.repository Event.all] } := by
  intro wanted store kept calls
  have calm : store.Calm := Store.calm_empty
  have bounded : ∀ hook ∈ store.webhooks wanted.repository,
      Event.all.any hook.subscribesTo = true → hook.id < Int64.maxValue := by
    have all : ∀ hook ∈ store.webhooks wanted.repository, hook.id < Int64.maxValue := by decide
    exact fun hook member _ => all hook member
  have reconciles : (store.run (reconcile wanted)).1 = .ok (some kept) := rfl
  have recorded : (store.run (reconcile wanted)).2.journal = calls := by decide +kernel
  obtain ⟨whereCalm, asked, reads, areAsked⟩ := preview_foresees store wanted
  obtain ⟨sameSuccess, foresees⟩ := whereCalm calm bounded
  obtain ⟨report, previews⟩ := sameSuccess.mpr ⟨some kept, reconciles⟩
  obtain ⟨made, isMade, planned, sameWebhook⟩ := foresees report (some kept) previews reconciles
  obtain rfl : calls = made := recorded.symm.trans isMade
  have createsNothing : ¬∃ call ∈ calls, call.operation = .create := by decide
  refine ⟨calm, bounded, reconciles, recorded, ⟨report, previews, planned, ?_⟩, ?_⟩
  · exact sameWebhook.resolve_right fun creates => createsNothing creates.1
  · obtain rfl := areAsked.resolve_right fun isMirror => absurd isMirror.1 Bool.false_ne_true
    exact reads

end Reconcile

end WebhookSync
