import WebhookSync.Proofs.Foretelling

/-!
# The greatest id

A preview copies the listed webhooks into a store that has to know an id behind each of theirs.
There is none behind the greatest, so a preview breaks off if and only if a webhook with the
greatest id is listed, whoever answers and whatever is wanted (`preview_exhausted_iff`); a
reconciliation with the same webhooks needs no such id (`greatest_id_exhausts_preview`).
-/

namespace WebhookSync

open Gateway (Call Store)

namespace Gateway.Store

theorem insertWebhook?_eq_none_iff {store : Store} {repository : Repository} {hook : Webhook} :
    store.insertWebhook? repository hook = none ↔ hook.id = Int64.maxValue := by
  rw [insertWebhook?, Option.map_eq_none_iff, successor?]
  split
  · rename_i greatest
    exact iff_of_true rfl greatest
  · rename_i other
    exact iff_of_false (Option.some_ne_none _) other

end Gateway.Store

namespace Preview

/-- Webhooks cannot be copied just when one of them has the greatest id. -/
theorem foldlM_insertWebhook?_eq_none_iff {repository : Repository} {hooks : List Webhook}
    {start : Store} :
    hooks.foldlM (fun store hook => store.insertWebhook? repository hook) start = none ↔
      ∃ hook ∈ hooks, hook.id = Int64.maxValue := by
  induction hooks generalizing start with
  | nil => simp
  | cons hook rest inductionHypothesis =>
      rw [List.foldlM_cons, List.exists_mem_cons_iff, ← Store.insertWebhook?_eq_none_iff]
      cases inserted : start.insertWebhook? repository hook with
      | none => exact iff_of_true rfl (.inl rfl)
      | some next =>
          rw [show (some next >>= fun store => rest.foldlM _ store) = rest.foldlM _ next from rfl,
            inductionHypothesis]
          simp

theorem copy_eq_none_iff {repository : Repository} {hooks : List Webhook} :
    copy repository hooks = none ↔ ∃ hook ∈ hooks, hook.id = Int64.maxValue :=
  foldlM_insertWebhook?_eq_none_iff

theorem report_ne_exhausted (wanted : Subscription) (store : Store) :
    report wanted store ≠ .error .idsExhausted := by
  intro exhausted
  cases run : store.run (reconcile wanted) with
  | mk result after =>
      cases result with
      | error failure =>
          rw [Reconcile.report_of_error run] at exhausted
          cases exhausted
      | ok webhook =>
          rw [Reconcile.report_of_ok run] at exhausted
          cases exhausted

section Run

variable {σ : Type} (gateway : (call : Call) → σ → Gateway.Answer call × σ) (state : σ)
  (wanted : Subscription)

/-- Finding out what is supported takes no ids. -/
theorem run_noteSupported_ne_exhausted (copied : Store) :
    ((noteSupported wanted copied).run gateway state).1 ≠ .error .idsExhausted := by
  unfold noteSupported
  split
  · rw [Dialogue.run_ask]
    cases (gateway .supportedEvents state).1 with
    | ok events => exact fun exhausted => by cases exhausted
    | error failure =>
        simp only
        split <;> exact fun exhausted => by cases exhausted
  · exact fun exhausted => by cases exhausted

/-- No snapshot can be taken for want of ids just when a webhook with the greatest id is listed. -/
theorem run_takeSnapshot_exhausted_iff :
    ((takeSnapshot wanted).run gateway state).1 = .error .idsExhausted ↔
      ∃ hooks, (gateway (.list wanted.repository Event.all) state).1 = .ok hooks ∧
        ∃ hook ∈ hooks, hook.id = Int64.maxValue := by
  rw [takeSnapshot, Dialogue.run_ask]
  cases (gateway (.list wanted.repository Event.all) state).1 with
  | error failure => simp
  | ok hooks =>
      simp only [Except.ok.injEq, exists_eq_left', ← @copy_eq_none_iff wanted.repository]
      cases copy wanted.repository hooks with
      | none => exact iff_of_true rfl rfl
      | some copied =>
          exact iff_of_false (run_noteSupported_ne_exhausted gateway _ wanted copied)
            (Option.some_ne_none copied)

end Run

end Preview

/-- Whoever answers, a preview breaks off for want of an id just when a webhook with the greatest id
is listed, whatever else is listed, wanted or supported.  Otherwise it ends with a report or with a
setback. -/
theorem preview_exhausted_iff {σ : Type}
    (gateway : (call : Call) → σ → Gateway.Answer call × σ) (state : σ) (wanted : Subscription) :
    ((preview wanted).run gateway state).1 = .error .idsExhausted ↔
      ∃ hooks, (gateway (.list wanted.repository Event.all) state).1 = .ok hooks ∧
        ∃ hook ∈ hooks, hook.id = Int64.maxValue := by
  rw [← Preview.run_takeSnapshot_exhausted_iff gateway state wanted, preview_eq_andThen,
    Dialogue.andThen, Dialogue.run_bind]
  cases ((Preview.takeSnapshot wanted).run gateway state).1 with
  | error fault =>
      change Except.error fault = Except.error _ ↔ Except.error fault = Except.error _
      rw [Except.error.injEq, Except.error.injEq]
  | ok snapshot =>
      exact iff_of_false (Preview.report_ne_exhausted wanted snapshot) fun exhausted => by
        cases exhausted

/-- A single own webhook that is up to date, and has the greatest id: a reconciliation has nothing
to do, and its preview breaks off. -/
theorem greatest_id_exhausts_preview :
    let wanted : Subscription := ⟨⟨"PROJ", "service"⟩, "ci",
      Subscription.callbackUrlOf "https://ci.example.com", false, true, false⟩
    let hook : Webhook :=
      ⟨Int64.maxValue, "ci", EventSet.refChange.names, wanted.callbackUrl, true⟩
    let store := Store.empty.setWebhooks wanted.repository [hook]
    (store.run (reconcile wanted)).1 = .ok (some hook) ∧
      ¬((∃ report, (store.run (preview wanted)).1 = .ok report) ∨
        ∃ setback, (store.run (preview wanted)).1 = .error (.setback setback)) := by
  intro wanted hook store
  have exhausted : (store.run (preview wanted)).1 = .error .idsExhausted := rfl
  refine ⟨rfl, ?_⟩
  rw [exhausted]
  rintro (⟨report, isReport⟩ | ⟨setback, isSetback⟩)
  · cases isReport
  · cases isSetback

end WebhookSync
