import WebhookSync.Proofs.Reconcile.Run

/-!
# Recovery

There is no way back from a change that was made, and none is needed.  A reconciliation that fails
was cut off at a call that is set to fail, and wherever it was cut off, the next one takes it to the
end that it would have come to (`reconcile_recovers`).
-/

namespace WebhookSync.Reconcile

open Gateway (Call GivesUp Operation Store)

/-- Behind some of its changes, a reconciliation that begins anew makes the remaining ones and comes
to the same end. -/
theorem run_reconcile_behind {store : Store} {wanted : Subscription} {kind : Shape}
    (calm : store.Calm) (numbered : store.Numbered wanted.repository)
    (room : HasRoom store wanted kind)
    (asked : wantedEvents store.capabilities wanted = kind.events) (count : Nat) :
    let planned := changes wanted kind (store.webhooks wanted.repository)
    ∃ after, (store.performAll (planned.take count)).run (reconcile wanted) =
        (.ok (some (outcome wanted kind (store.webhooks wanted.repository) store.nextId)), after) ∧
      after.webhooks = (store.performAll planned).webhooks := by
  intro planned
  have split : changes wanted kind (store.webhooks wanted.repository) =
      planned.take count ++ planned.drop count := (List.take_append_drop count planned).symm
  obtain ⟨remaining, sameEnd, numberedThere, _⟩ :=
    steps_of_changes_eq_append numbered room split
  have sameAsked : wantedEvents (store.performAll (planned.take count)).capabilities wanted =
      kind.events := by
    rw [Store.capabilities_performAll]
    exact asked
  have run := run_reconcile_of_distinct (calm.performAll _) numberedThere.distinct sameAsked
  rw [sameEnd] at run
  refine ⟨_, run, ?_⟩
  rw [completed, remaining, ← Store.performAll_append, List.take_append_drop]

/-- A reconciliation that fails was cut off at a call that is set to fail. -/
theorem run_reconcile_cut_off {store : Store} {wanted : Subscription} {calls : List Call}
    {result : Option Webhook} (calm : store.Calm)
    (run : store.run (reconcile wanted) =
      (.ok result, { store.performAll calls with journal := store.journal ++ calls }))
    {failing : Operation → Bool} {failure : Failure} {after : Store}
    (fails : ({ store with failing } : Store).run (reconcile wanted) = (.error failure, after)) :
    ∃ made failed, made ++ [failed] <+: calls ∧ failing failed.operation = true ∧
      failure = .refused 500 (failed.operation.name ++ " failed") ∧
      after = { store.performAll made with
        failing, journal := store.journal ++ made ++ [failed] } := by
  obtain ⟨calls', effect, course⟩ := Gateway.run_of_givesUp (reconcile_givesUp wanted) calm failing
  rw [run] at effect course
  have sameCalls : calls = calls' :=
    List.append_cancel_left (congrArg Store.journal effect)
  subst sameCalls
  rcases course with agrees | ⟨made, failed, isPrefix, isFailing, stops⟩
  · rw [agrees] at fails
    exact absurd (congrArg Prod.fst fails) (by simp)
  · rw [stops] at fails
    obtain ⟨sameFailure, sameStore⟩ := Prod.mk.inj fails
    exact ⟨made, failed, isPrefix, isFailing, (Except.error.inj sameFailure).symm, sameStore.symm⟩

/-- Compared with the run in which nothing fails: if some calls are set to fail and the
reconciliation fails, it has made the first calls of that run up to one that is set to fail, and
reports the failure of this one; the effects of the calls before are there, and nothing else.  And
behind any number of the changes of that run, the reconciliation comes to the same result and leaves
the same webhooks behind as that run. -/
theorem reconcile_recovers {store : Store} {wanted : Subscription} (calm : store.Calm)
    (numbered : store.Numbered wanted.repository) (room : store.nextId < Int64.maxValue) :
    ∃ calls result,
      store.run (reconcile wanted) =
          (.ok result, { store.performAll calls with journal := store.journal ++ calls }) ∧
        (∀ failing failure after,
          ({ store with failing } : Store).run (reconcile wanted) = (.error failure, after) →
            ∃ made failed, made ++ [failed] <+: calls ∧ failing failed.operation = true ∧
              failure = .refused 500 (failed.operation.name ++ " failed") ∧
              after = { store.performAll made with
                failing, journal := store.journal ++ made ++ [failed] }) ∧
        ∀ count, ∃ after,
          (store.performAll ((calls.filter Call.isMutation).take count)).run (reconcile wanted) =
              (.ok result, after) ∧
            after.webhooks = (store.performAll calls).webhooks := by
  rcases wantedEvents_cases store.capabilities wanted with nothing | ⟨kind, asked⟩
  · -- Nothing is asked for: the host is only asked what it can do.
    have noEffect : store.performAll (probes wanted) = store := by
      rw [← Store.performAll_filter_isMutation, filter_isMutation_probes]
      rfl
    have run := run_reconcile_of_empty calm nothing
    have course : store.run (reconcile wanted) = (.ok none,
        { store.performAll (probes wanted) with journal := store.journal ++ probes wanted }) := by
      rw [run, noEffect]
    refine ⟨probes wanted, none, course, fun _ _ _ => run_reconcile_cut_off calm course, ?_⟩
    intro count
    rw [filter_isMutation_probes, List.take_nil, Store.performAll_nil, noEffect]
    exact ⟨_, run, rfl⟩
  · have hasRoom : HasRoom store wanted kind := fun _ _ _ => room
    have run := run_reconcile_of_distinct calm numbered.distinct asked
    have mutations := filter_isMutation_calls wanted kind (store.webhooks wanted.repository)
    have sameEffect := Store.performAll_filter_isMutation store
      (probes wanted ++ [Call.list wanted.repository Event.all] ++
        changes wanted kind (store.webhooks wanted.repository))
    rw [mutations] at sameEffect
    -- Asking and listing have no effect, so all the calls lead where the changes alone do.
    rw [completed, sameEffect] at run
    refine ⟨_, _, run, fun _ _ _ => run_reconcile_cut_off calm run, ?_⟩
    intro count
    rw [mutations, ← sameEffect]
    exact run_reconcile_behind calm numbered hasRoom asked count

/-- The first of two webhooks is updated and the second one deleted, also where a deletion that
failed left both behind. -/
theorem reconcile_recovers_duplicate :
    let store := Store.empty.performAll [.create ⟨"P", "r"⟩ "ci" .refChange "https://old",
      .create ⟨"P", "r"⟩ "ci" .pullRequest "https://ci"]
    let wanted : Subscription := ⟨⟨"P", "r"⟩, "ci", "https://ci", false, true, true⟩
    let kept : Webhook := ⟨1, "ci", EventSet.refAndPullRequest.names, "https://ci", true⟩
    let duplicate : Webhook := ⟨2, "ci", EventSet.pullRequest.names, "https://ci", true⟩
    let read : Call := .list wanted.repository Event.all
    let rewrite : Call := .update wanted.repository 1 "ci" .refAndPullRequest "https://ci"
    let removal : Call := .delete wanted.repository 2
    store.Calm ∧ store.Numbered wanted.repository ∧ store.nextId < Int64.maxValue ∧
      store.run (reconcile wanted) = (.ok (some kept),
        { store.performAll [read, rewrite, removal] with journal := [read, rewrite, removal] }) ∧
      (store.failOn .delete).run (reconcile wanted) = (.error (.refused 500 "Delete failed"),
        { (store.performAll [read, rewrite]).failOn .delete with
          journal := [read, rewrite, removal] }) ∧
      (store.performAll [read, rewrite]).webhooks wanted.repository = [kept, duplicate] ∧
      ∀ count, ∃ after,
        (store.performAll ([rewrite, removal].take count)).run (reconcile wanted) =
            (.ok (some kept), after) ∧
          after.webhooks wanted.repository = [kept] := by
  intro store wanted kept duplicate read rewrite removal
  have calm : store.Calm := Store.calm_empty.performAll _
  have numbered : store.Numbered wanted.repository := by
    apply Store.Numbered.perform
    · exact (Store.numbered_empty wanted.repository).perform fun _ => by decide
    · exact fun _ => by decide
  have room : store.nextId < Int64.maxValue := by decide
  have reconciles : (store.run (reconcile wanted)).1.toOption = some (some kept) := by
    decide +kernel
  have recorded : (store.run (reconcile wanted)).2.journal = [read, rewrite, removal] := by
    decide +kernel
  obtain ⟨calls, result, run, cutOff, recovers⟩ := reconcile_recovers calm numbered room
  rw [run] at reconciles recorded
  obtain rfl : some kept = result := (Option.some.inj reconciles).symm
  obtain rfl : [read, rewrite, removal] = calls := recorded.symm
  have breaksOff : ((store.failOn .delete).run (reconcile wanted)).1.toOption = none := by
    decide +kernel
  have attempted : ((store.failOn .delete).run (reconcile wanted)).2.journal =
      [read, rewrite, removal] := by
    decide +kernel
  have halfway : (store.performAll [read, rewrite]).webhooks wanted.repository =
      [kept, duplicate] := by
    decide +kernel
  have done : (store.performAll [read, rewrite, removal]).webhooks wanted.repository = [kept] := by
    decide +kernel
  refine ⟨calm, numbered, room, run, ?_, halfway, fun count => ?_⟩
  · cases fails : (store.failOn .delete).run (reconcile wanted) with
    | mk ending after =>
        rw [fails] at breaksOff attempted
        cases ending with
        | ok _ => cases breaksOff
        | error failure =>
            obtain ⟨made, failed, _, _, rfl, rfl⟩ := cutOff _ failure after fails
            have isMade : made ++ [failed] = [read, rewrite] ++ [removal] := attempted
            obtain ⟨rfl, isFailed⟩ := List.append_inj' isMade rfl
            obtain rfl : failed = removal := List.head_eq_of_cons_eq isFailed
            rfl
  · obtain ⟨after, runs, sameWebhooks⟩ := recovers count
    exact ⟨after, runs, (congrFun sameWebhooks wanted.repository).trans done⟩

end WebhookSync.Reconcile
