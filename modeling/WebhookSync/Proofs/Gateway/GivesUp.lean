import WebhookSync.Proofs.Dialogue
import WebhookSync.Proofs.Gateway.Effects

/-!
# Sessions that give up

A session that ends with the failure of the first call that is set to fail does not depend on what
is set to fail up to that call.  So a failing run is a run without failures that was cut off
(`run_of_givesUp`).
-/

namespace WebhookSync.Gateway

/-- The session ends with the failure of a call that is set to fail. -/
inductive GivesUp {α : Type} : Session (Except Failure α) → Prop where
  | done (result : Except Failure α) : GivesUp (.done result)
  | ask {call : Call} {next : Answer call → Session (Except Failure α)}
      (ends : next (.error (Store.setToFail call)) = .done (.error (Store.setToFail call)))
      (onward : ∀ answer, GivesUp (next answer)) : GivesUp (.ask call next)

namespace GivesUp

variable {α β : Type}

theorem require {call : Call} {next : call.Reply → Session (Except Failure α)}
    (onward : ∀ reply, GivesUp (next reply)) : GivesUp (.require call next) := by
  refine GivesUp.ask ?_ fun answer => ?_
  · rfl
  · cases answer with
    | error failure => exact .done _
    | ok reply => exact onward reply

theorem andThen {first : Session (Except Failure α)} {second : α → Session (Except Failure β)}
    (firstGivesUp : GivesUp first) (secondGivesUp : ∀ result, GivesUp (second result)) :
    GivesUp (first.andThen second) := by
  induction firstGivesUp with
  | done result =>
      cases result with
      | error failure => exact .done _
      | ok result => exact secondGivesUp result
  | ask ends onward inductionHypothesis =>
      refine .ask ?_ inductionHypothesis
      rw [ends]
      rfl

end GivesUp

/-- With a store in which nothing fails, a session makes some calls.  With other settings it comes
to the same end, or it makes the first of these calls up to one that is set to fail, and ends with
the failure of that one. -/
theorem run_of_givesUp {α : Type} {session : Session (Except Failure α)} (givesUp : GivesUp session)
    {store : Store} (calm : store.Calm) (failing : Operation → Bool) :
    ∃ calls, (store.run session).2 =
        { store.performAll calls with journal := store.journal ++ calls } ∧
      (({ store with failing } : Store).run session =
          ((store.run session).1, { (store.run session).2 with failing }) ∨
        ∃ made failed, made ++ [failed] <+: calls ∧ failing failed.operation = true ∧
          ({ store with failing } : Store).run session =
            (.error (Store.setToFail failed),
              { store.performAll made with
                failing, journal := store.journal ++ made ++ [failed] })) := by
  induction givesUp generalizing store with
  | done result => exact ⟨[], by rw [List.append_nil]; rfl, .inl rfl⟩
  | @ask call next ends onward inductionHypothesis =>
      have notedCalm : ({ (store.perform call).2 with
          journal := store.journal ++ [call] } : Store).Calm := calm.perform call
      obtain ⟨calls, effect, course⟩ := inductionHypothesis (store.perform call).1 notedCalm
      have begins := Store.run_ask_of_passes store next (calm call.operation)
      rw [Store.performAll_withJournal] at effect
      refine ⟨call :: calls, ?_, ?_⟩
      · rw [begins, effect, Store.performAll_cons]
        simp only [List.append_assoc, List.singleton_append]
      · cases fails : failing call.operation with
        | true =>
            refine .inr ⟨[], call, ?_, fails, ?_⟩
            · exact ⟨calls, rfl⟩
            · rw [Store.run_ask_of_fails fails, ends, List.append_nil]
              rfl
        | false =>
            have same := Store.perform_with store failing store.journal call
            have beginsToo := Store.run_ask_of_passes { store with failing } next fails
            rw [same] at beginsToo
            rw [begins, beginsToo]
            rcases course with agrees | ⟨made, failed, isPrefix, isFailing, stops⟩
            · exact .inl agrees
            · refine .inr ⟨call :: made, failed, ?_, isFailing, ?_⟩
              · exact List.cons_prefix_cons.mpr ⟨rfl, isPrefix⟩
              · rw [Store.performAll_withJournal] at stops
                rw [stops, Store.performAll_cons]
                simp only [List.append_assoc, List.cons_append]
                rfl

/-- Where a session that gives up succeeds, it met no call that is set to fail. -/
theorem run_calm_of_ok {α : Type} {session : Session (Except Failure α)} (givesUp : GivesUp session)
    {store after : Store} {result : α} (run : store.run session = (.ok result, after)) :
    ∃ calmAfter,
      ({ store with failing := fun _ => false } : Store).run session = (.ok result, calmAfter) ∧
        after = { calmAfter with failing := store.failing } := by
  have calm : ({ store with failing := fun _ => false } : Store).Calm := fun _ => rfl
  obtain ⟨calls, _, agrees | ⟨made, failed, _, _, stops⟩⟩ :=
    run_of_givesUp givesUp calm store.failing
  · have both := run.symm.trans agrees
    obtain ⟨sameResult, sameStore⟩ := Prod.mk.inj both
    exact ⟨_, Prod.ext sameResult.symm rfl, sameStore⟩
  · have both := congrArg Prod.fst (run.symm.trans stops)
    exact absurd both (by simp)

end WebhookSync.Gateway
