import Mathlib.Logic.Relation
import WebhookSync.Proofs.Reconcile.Course
import WebhookSync.Proofs.Reconcile.Neighbours

/-!
# Coverage

From its first successful reconciliation on, a subscription has a webhook at every moment, also in
the middle of the reconciliations of compatible subscriptions, and when these fail
(`reconciled_stays_covered`).  What keeps it so is that no single change uncovers it, and that a
reconciliation makes nothing but changes that are due: it lists the webhooks before its first
change, and goes on only from what it knows to be there.
-/

namespace WebhookSync.Reconcile

open Gateway (Call Operation Session Store)

/-! ## Moments -/

/-- A store, and what is left of the reconciliation that is underway. -/
structure Moment where
  store : Store
  session : Option (Session (Except Failure (Option Webhook)))

/-- What can happen next where subscriptions are reconciled one after the other.  Ids do not wrap
around. -/
inductive Step (requests : Set Subscription) : Moment → Moment → Prop where
  /-- the reconciliation of a subscription begins -/
  | start {store : Store} {wanted : Subscription} (requested : wanted ∈ requests) :
      Step requests ⟨store, none⟩ ⟨store, some (reconcile wanted)⟩
  /-- a call is answered, be it that it fails -/
  | answer {store : Store} {call : Call}
      {next : Gateway.Answer call → Session (Except Failure (Option Webhook))}
      (room : store.HasRoomFor call) :
      Step requests ⟨store, some (.ask call next)⟩
        ⟨(Store.answer call store).2, some (next (Store.answer call store).1)⟩
  /-- the reconciliation has ended, or is broken off -/
  | stop {store : Store} {session : Session (Except Failure (Option Webhook))} :
      Step requests ⟨store, some session⟩ ⟨store, none⟩
  /-- other calls fail from now on, and the server reports something else as supported -/
  | turn {store : Store} {session : Option (Session (Except Failure (Option Webhook)))}
      (failing : Operation → Bool) (capabilities : Option EventSet) :
      Step requests ⟨store, session⟩ ⟨{ store with failing, capabilities }, session⟩

/-! ## Stages of a reconciliation -/

/-- How far a reconciliation has come where these are the webhooks of the repository. -/
inductive Stage (wanted : Subscription) (hooks : List Webhook) :
    Session (Except Failure (Option Webhook)) → Prop where
  /-- the server is to be asked what it supports -/
  | probing {next : Gateway.Answer .supportedEvents → Session (Except Failure (Option Webhook))}
      (onward : ∀ answer, Stage wanted hooks (next answer)) :
      Stage wanted hooks (.ask .supportedEvents next)
  /-- the webhooks are to be listed -/
  | listing (kind : Shape) : Stage wanted hooks (apply wanted kind.events)
  /-- the webhooks are known as they are -/
  | settling (kind : Shape) : Stage wanted hooks (settle wanted kind hooks)
  | ended (result : Except Failure (Option Webhook)) : Stage wanted hooks (.done result)

section Stage

variable {wanted : Subscription} {hooks : List Webhook}

theorem stage_of_events {events : EventSet}
    (isShape : events = .empty ∨ ∃ kind : Shape, events = kind.events) :
    Stage wanted hooks (if events.isEmpty then .done (.ok none) else apply wanted events) := by
  rcases isShape with rfl | ⟨kind, rfl⟩
  · rw [if_pos (by decide)]
    exact .ended _
  · rw [if_neg (by simp [kind.events_isEmpty])]
    exact .listing kind

/-- A reconciliation begins at one of the stages. -/
theorem stage_reconcile : Stage wanted hooks (reconcile wanted) := by
  unfold reconcile resolveEvents
  split
  · refine .probing fun answer => ?_
    cases answer with
    | ok supported => exact stage_of_events (mirrorEvents_cases supported)
    | error failure =>
        cases missing : failure.isMissingCapability with
        | true =>
            simp only [missing, if_true]
            exact stage_of_events (.inr ⟨.refOnly, rfl⟩)
        | false =>
            simp only [missing, Bool.false_eq_true, if_false]
            exact .ended _
  · exact stage_of_events (triggeredEvents_cases wanted)

/-- Answering a call takes a reconciliation to another stage, and a call that can change webhooks is
a change that is due. -/
theorem Stage.answer {store : Store} {call : Call}
    {next : Gateway.Answer call → Session (Except Failure (Option Webhook))}
    (numbered : store.Numbered wanted.repository)
    (stage : Stage wanted (store.webhooks wanted.repository) (.ask call next)) :
    Stage wanted ((Store.answer call store).2.webhooks wanted.repository)
        (next (Store.answer call store).1) ∧
      (call.isMutation = true →
        ∃ kind leftover, Due wanted kind (store.webhooks wanted.repository) call leftover) := by
  generalize asked : Dialogue.ask call next = session at stage
  cases stage with
  | probing onward =>
      injection asked with sameCall sameNext
      subst sameCall
      obtain rfl := eq_of_heq sameNext
      rw [Store.answer_of_noEffect (.inl rfl)]
      exact ⟨onward _, fun mutates => absurd mutates (by decide)⟩
  | listing kind =>
      rw [apply_eq_require, Dialogue.require] at asked
      injection asked with sameCall sameNext
      subst sameCall
      obtain rfl := eq_of_heq sameNext
      rw [Store.answer_of_noEffect (.inl rfl)]
      refine ⟨?_, fun mutates => absurd mutates (by simp [Call.isMutation])⟩
      cases outcome : store.failing (Call.list wanted.repository Event.all).operation with
      | true =>
          rw [Store.answer_of_fails outcome]
          exact .ended _
      | false =>
          rw [Store.answer_of_passes outcome]
          change Stage wanted (store.webhooks wanted.repository) (settle wanted kind
            ((store.webhooks wanted.repository).filter fun hook =>
              Event.all.any hook.subscribesTo))
          rw [settle_listed]
          exact .settling kind
  | settling kind =>
      obtain ⟨leftover, _, continues, due⟩ := settle_answered numbered.distinct asked.symm
      refine ⟨?_, fun _ => ⟨kind, leftover, due⟩⟩
      cases outcome : store.failing call.operation with
      | true =>
          rw [Store.answer_of_fails outcome]
          have givesUp := applyTo_givesUp wanted kind.events
            (owned wanted (store.webhooks wanted.repository))
          rw [applyTo_eq_settle, ← asked] at givesUp
          cases givesUp with
          | ask ends onward => exact ends ▸ .ended _
      | false =>
          rw [Store.answer_of_passes outcome]
          change Stage wanted _ (next (store.perform call).1)
          rw [continues]
          exact .settling kind
  | ended result => exact absurd asked (by simp)

end Stage

/-! ## What holds at every moment -/

/-- A subscription is covered, and whatever is underway is the reconciliation of one of the
subscriptions, at some stage. -/
structure Guarded (requests : Set Subscription) (wanted : Subscription) (kind : Shape)
    (moment : Moment) : Prop where
  numbered : ∀ repository, moment.store.Numbered repository
  covered : Covered wanted kind (moment.store.webhooks wanted.repository)
  stage : ∀ session, moment.session = some session → ∃ other ∈ requests,
    Stage other (moment.store.webhooks other.repository) session

section Guarded

variable {requests : Set Subscription} {wanted : Subscription} {kind : Shape}
  {before after : Moment}
  (compatible : ∀ first ∈ requests, ∀ second ∈ requests, first.Compatible second)
  (requested : wanted ∈ requests)

include compatible requested

/-- Whatever happens next, the subscription stays covered. -/
theorem Guarded.step (guarded : Guarded requests wanted kind before)
    (step : Step requests before after) : Guarded requests wanted kind after := by
  obtain ⟨numbered, covered, stage⟩ := guarded
  cases step with
  | start otherRequested =>
      refine ⟨numbered, covered, fun session underway => ?_⟩
      obtain rfl := Option.some.inj underway
      exact ⟨_, otherRequested, stage_reconcile⟩
  | @answer store call next room =>
      obtain ⟨other, otherRequested, otherStage⟩ := stage _ rfl
      obtain ⟨onward, isDue⟩ := otherStage.answer (numbered _)
      have stageAfter : ∀ session, some (next (Store.answer call store).1) = some session →
          ∃ other ∈ requests,
            Stage other ((Store.answer call store).2.webhooks other.repository) session := by
        intro session underway
        obtain rfl := Option.some.inj underway
        exact ⟨other, otherRequested, onward⟩
      by_cases noEffect : call.isMutation = false ∨ store.failing call.operation = true
      · have same := Store.answer_of_noEffect noEffect
        refine ⟨?_, ?_, stageAfter⟩
        · rw [same]
          exact fun repository => (numbered repository).congr rfl rfl
        · rw [same]
          exact covered
      · obtain ⟨mutates, passes⟩ := not_or.mp noEffect
        rw [Bool.not_eq_false] at mutates
        rw [Bool.not_eq_true] at passes
        obtain ⟨otherKind, leftover, due⟩ := isDue mutates
        have effect := Store.answer_of_passes passes
        refine ⟨?_, ?_, stageAfter⟩
        · rw [effect]
          exact fun repository => ((numbered repository).perform room).congr rfl rfl
        · rw [effect]
          exact due.covered (compatible wanted requested other otherRequested) (numbered _) covered
  | stop => exact ⟨numbered, covered, fun session underway => absurd underway.symm (by simp)⟩
  | turn failing capabilities =>
      exact ⟨fun repository => (numbered repository).congr rfl rfl, covered, stage⟩

/-- However much happens, the subscription stays covered. -/
theorem Guarded.steps (guarded : Guarded requests wanted kind before)
    (later : Relation.ReflTransGen (Step requests) before after) :
    Guarded requests wanted kind after := by
  induction later with
  | refl => exact guarded
  | tail _ step inductionHypothesis =>
      exact inductionHypothesis.step compatible requested step

end Guarded

/-! ## The first reconciliation -/

/-- A reconciliation that succeeds covers its subscription. -/
theorem covered_of_run {store after : Store} {wanted : Subscription} {events : EventSet}
    {result : Option Webhook} (numbered : ∀ repository, store.Numbered repository)
    (room : store.nextId < Int64.maxValue)
    (resolved : (store.run (resolveEvents wanted)).1 = .ok events)
    (something : events.isEmpty = false)
    (run : store.run (reconcile wanted) = (.ok result, after)) :
    ∃ kind : Shape, events = kind.events ∧ (∀ repository, after.Numbered repository) ∧
      Covered wanted kind (after.webhooks wanted.repository) := by
  have calm : ({ store with failing := fun _ => false } : Store).Calm := fun _ => rfl
  obtain ⟨_, probed, _⟩ := Gateway.run_calm_of_ok (resolveEvents_givesUp wanted)
    (Prod.ext resolved rfl : store.run (resolveEvents wanted) = (.ok events, _))
  obtain ⟨calmAfter, calmRun, rfl⟩ := Gateway.run_calm_of_ok (reconcile_givesUp wanted) run
  rw [run_resolveEvents calm] at probed
  have sameEvents := Except.ok.inj (congrArg Prod.fst probed)
  rcases wantedEvents_cases store.capabilities wanted with nothing | ⟨kind, asked⟩
  · have isEmpty : events = .empty := sameEvents.symm.trans nothing
    exact absurd something (by rw [isEmpty]; decide)
  · have numberedCalm (repository : Repository) :
        ({ store with failing := fun _ => false } : Store).Numbered repository :=
      (numbered repository).congr rfl rfl
    have hasRoom : HasRoom { store with failing := fun _ => false } wanted kind := fun _ _ _ => room
    rw [run_reconcile_of_distinct calm (numberedCalm _).distinct asked] at calmRun
    obtain ⟨_, rfl⟩ := Prod.mk.inj calmRun
    have whole := kept_completed (numberedCalm wanted.repository) hasRoom
    refine ⟨kind, sameEvents.symm.trans asked, ?_, ?_⟩
    · intro repository
      exact (numbered_completed (numberedCalm repository) hasRoom).congr rfl rfl
    · exact ⟨_, le_choose _ _ _, _, (mem_gathered.mp (anchor_mem whole.anchor)).1, whole.fit⟩

/-- Once a subscription that asks for some events has been reconciled, there is an active webhook
with its name and address that listens to these events: at every moment, whichever of some
compatible subscriptions are reconciled, whichever calls fail, and whatever the server says it
supports. -/
theorem reconciled_stays_covered {requests : Set Subscription} {wanted : Subscription}
    {store after : Store} {events : EventSet} {result : Option Webhook} {moment : Moment}
    (compatible : ∀ first ∈ requests, ∀ second ∈ requests, first.Compatible second)
    (requested : wanted ∈ requests) (numbered : ∀ repository, store.Numbered repository)
    (room : store.nextId < Int64.maxValue)
    (resolved : (store.run (resolveEvents wanted)).1 = .ok events)
    (something : events.isEmpty = false)
    (run : store.run (reconcile wanted) = (.ok result, after))
    (later : Relation.ReflTransGen (Step requests) ⟨after, none⟩ moment) :
    ∃ hook ∈ moment.store.webhooks wanted.repository,
      hook.active = true ∧ hook.name = wanted.name ∧ hook.url = wanted.callbackUrl ∧
        ∀ event, events.contains event = true → hook.subscribesTo event = true := by
  obtain ⟨kind, rfl, numberedAfter, covered⟩ :=
    covered_of_run numbered room resolved something run
  have guarded : Guarded requests wanted kind ⟨after, none⟩ :=
    ⟨numberedAfter, covered, fun session underway => absurd underway.symm (by simp)⟩
  obtain ⟨shape, below, hook, listed, fit⟩ :=
    (guarded.steps compatible requested later).covered
  obtain ⟨name, url, active, sameEvents⟩ := Webhook.isUpToDate_iff.mp fit
  exact ⟨hook, listed, active, name, url,
    fun event contained => Shape.subscribesTo_of_le below sameEvents contained⟩

theorem reconciled_stays_covered_amid_failures :
    let refs : Subscription := ⟨⟨"P", "r"⟩, "ci", "https://ci", false, true, false⟩
    let both : Subscription := ⟨⟨"P", "r"⟩, "ci", "https://ci", false, true, true⟩
    let requests : Set Subscription := {wanted | wanted ∈ [refs, both]}
    let after := (Store.empty.run (reconcile refs)).2
    (∀ first ∈ requests, ∀ second ∈ requests, first.Compatible second) ∧
      (∃ result, Store.empty.run (reconcile refs) = (.ok result, after)) ∧
      ∃ moment : Moment, Relation.ReflTransGen (Step requests) ⟨after, none⟩ moment ∧
        moment.session.isSome = true ∧ (∀ operation, moment.store.failing operation = true) ∧
        ∃ hook ∈ moment.store.webhooks refs.repository,
          hook.active = true ∧ hook.name = refs.name ∧ hook.url = refs.callbackUrl ∧
            ∀ event, refs.triggeredEvents.contains event = true →
              hook.subscribesTo event = true := by
  intro refs both requests after
  have compatible : ∀ first ∈ requests, ∀ second ∈ requests, first.Compatible second := by
    change ∀ first ∈ [refs, both], ∀ second ∈ [refs, both], first.Compatible second
    decide
  have run : Store.empty.run (reconcile refs) =
      (.ok (some ⟨1, "ci", EventSet.refChange.names, "https://ci", true⟩), after) := rfl
  have begun : Step requests ⟨after, none⟩ ⟨after, some (reconcile both)⟩ :=
    .start (List.mem_cons_of_mem refs List.mem_cons_self)
  have listed : Step requests ⟨after, some (reconcile both)⟩ _ :=
    .answer fun creates => absurd creates (by decide)
  have later := ((Relation.ReflTransGen.single begun).tail listed).tail
    (.turn (fun _ => true) none)
  refine ⟨compatible, ⟨_, run⟩, _, later, rfl, fun _ => rfl, ?_⟩
  exact reconciled_stays_covered compatible List.mem_cons_self Store.numbered_empty (by decide) rfl
    (by decide) run later

end WebhookSync.Reconcile
