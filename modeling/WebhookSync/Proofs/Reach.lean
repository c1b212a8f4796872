import WebhookSync.Proofs.Reconcile.Contest

/-!
# The reach of a reconciliation

A reconciliation works on its own webhooks of one repository, and of these only on the kind that it
is for.  Whatever it does, and wherever it is cut off, the webhooks that are out of its reach stay
as they are and in their order, and no other webhook comes to look like one of them
(`reconcile_spares`).
-/

namespace WebhookSync.Reconcile

open Gateway (Call Store)

/-! ## What is out of reach -/

/-- A webhook on which no reconciliation for these events works: it is not own, it listens to no
managed event, or it listens to nothing of the kind that is wanted. -/
def OutOfReach (wanted : Subscription) (events : EventSet) (hook : Webhook) : Prop :=
  hook.isOwnedBy wanted = false ∨ hook.subscribesToAny (fun _ => true) = false ∨
    if events = .mirrorSync then hook.subscribesTo .mirrorSynchronized = false
    else hook.subscribesToAny Event.isRefOrPullRequest = false

instance (wanted : Subscription) (events : EventSet) : DecidablePred (OutOfReach wanted events) :=
  fun hook => inferInstanceAs (Decidable (hook.isOwnedBy wanted = false ∨
    hook.subscribesToAny (fun _ => true) = false ∨
      if events = .mirrorSync then hook.subscribesTo .mirrorSynchronized = false
      else hook.subscribesToAny Event.isRefOrPullRequest = false))

/-- Out of reach is what is not own or not gathered by the broadest shape. -/
theorem outOfReach_iff {wanted : Subscription} {kind : Shape} {hook : Webhook} :
    OutOfReach wanted kind.events hook ↔
      ¬(hook.isOwnedBy wanted = true ∧ kind.broadest.gathers hook = true) := by
  have ofKind : (if kind.events = .mirrorSync then hook.subscribesTo .mirrorSynchronized = false
      else hook.subscribesToAny Event.isRefOrPullRequest = false) ↔
        kind.broadest.gathers hook = false := by
    cases kind with
    | mirror => rfl
    | refOnly => rw [if_neg (by decide)]; rfl
    | pullRequestOnly => rw [if_neg (by decide)]; rfl
    | combined => rw [if_neg (by decide)]; rfl
  rw [OutOfReach, ofKind, not_and_or, Bool.not_eq_true, Bool.not_eq_true]
  constructor
  · rintro (foreign | silent | notOfKind)
    · exact .inl foreign
    · refine .inr (Bool.eq_false_iff.mpr fun gathers => ?_)
      obtain ⟨event, subscribed⟩ := Shape.exists_subscribesTo_of_gathers gathers
      have listens : hook.subscribesToAny (fun _ => true) = true :=
        Webhook.subscribesToAny_eq_true_iff.mpr ⟨event, rfl, subscribed⟩
      exact absurd listens (by simp [silent])
    · exact .inr notOfKind
  · rintro (foreign | notOfKind)
    · exact .inl foreign
    · exact .inr (.inr notOfKind)

/-- What is gathered is within reach. -/
theorem not_outOfReach_of_mem_gathered {wanted : Subscription} {kind : Shape} {hooks : List Webhook}
    {hook : Webhook} (member : hook ∈ gathered wanted (choose wanted kind hooks) hooks) :
    ¬OutOfReach wanted kind.events hook := by
  obtain ⟨_, own, gathers⟩ := mem_gathered.mp member
  rw [outOfReach_iff, not_not]
  exact ⟨own, Shape.gathers_mono (choose_le_broadest wanted kind hooks) gathers⟩

/-- What is written is within reach. -/
theorem not_outOfReach_of_fits {wanted : Subscription} {kind shape : Shape} {hook : Webhook}
    (below : shape ≤ kind.broadest) (fit : fits wanted shape hook = true) :
    ¬OutOfReach wanted kind.events hook := by
  rw [outOfReach_iff, not_not]
  exact ⟨Webhook.isOwnedBy_of_isUpToDate fit, (gathers_iff_le_of_fits fit).mpr below⟩

/-! ## Changes -/

/-- Rewriting a webhook within reach into another one within reach leaves what is out of reach as it
is. -/
theorem filter_rewriteAt {wanted : Subscription} {events wantedEvents : EventSet}
    {hooks : List Webhook} {anchor : Webhook} (distinct : (hooks.map Webhook.id).Nodup)
    (member : anchor ∈ hooks) (before : ¬OutOfReach wanted wantedEvents anchor)
    (after : ¬OutOfReach wanted wantedEvents (anchor.rewrittenFor wanted events)) :
    (rewriteAt wanted events anchor.id hooks).filter (OutOfReach wanted wantedEvents ·) =
      hooks.filter (OutOfReach wanted wantedEvents ·) := by
  have isAnchor : ∀ hook ∈ hooks, hook.id = anchor.id → hook = anchor := fun hook listed =>
    List.inj_on_of_nodup_map distinct listed member
  have sameTest : ∀ hook ∈ hooks, ((fun hook => decide (OutOfReach wanted wantedEvents hook)) ∘
      fun hook => if hook.id = anchor.id then hook.rewrittenFor wanted events else hook) hook =
        decide (OutOfReach wanted wantedEvents hook) := by
    intro hook listed
    simp only [Function.comp_apply]
    split
    · rename_i same
      obtain rfl := isAnchor hook listed same
      rw [decide_eq_false before, decide_eq_false after]
    · rfl
  have unchanged : ∀ hook ∈ hooks.filter (OutOfReach wanted wantedEvents ·),
      (if hook.id = anchor.id then hook.rewrittenFor wanted events else hook) = id hook := by
    intro hook spared
    obtain ⟨listed, outside⟩ := List.mem_filter.mp spared
    apply if_neg
    intro same
    exact before (isAnchor hook listed same ▸ of_decide_eq_true outside)
  rw [rewriteAt, List.filter_map, List.filter_congr sameTest, List.map_congr_left unchanged,
    List.map_id]

/-- A change leaves what is out of reach as it is. -/
theorem Due.filter_outOfReach {store : Store} {wanted : Subscription} {kind : Shape} {call : Call}
    {leftover : List Webhook}
    (distinct : ((store.webhooks wanted.repository).map Webhook.id).Nodup)
    (due : Due wanted kind (store.webhooks wanted.repository) call leftover) :
    ((store.perform call).2.webhooks wanted.repository).filter (OutOfReach wanted kind.events ·) =
      (store.webhooks wanted.repository).filter (OutOfReach wanted kind.events ·) := by
  cases due with
  | create nothing =>
      have within := not_outOfReach_of_fits kind.le_broadest (fits_fresh wanted kind store.nextId)
      rw [webhooks_create, List.filter_append, List.filter_cons_of_neg (by simpa using within),
        List.filter_nil, List.append_nil]
  | update found unfit =>
      have member := anchor_mem found
      rw [webhooks_update distinct]
      apply filter_rewriteAt distinct (mem_gathered.mp member).1
        (not_outOfReach_of_mem_gathered member)
      exact not_outOfReach_of_fits (choose_le_broadest wanted kind _)
        (Webhook.isUpToDate_rewrittenFor wanted _ _)
  | @delete kept gone leftover whole =>
      have other : gone ∈ others wanted (choose wanted kind (store.webhooks wanted.repository)) kept
          (store.webhooks wanted.repository) := whole.rest ▸ List.mem_cons_self
      have member := (mem_others.mp other).1
      rw [Store.webhooks_perform_delete, List.filter_filter]
      apply List.filter_congr
      intro hook listed
      rw [Bool.and_eq_left_iff_imp]
      intro outside
      have different : hook.id ≠ gone.id := by
        intro same
        obtain rfl :=
          List.inj_on_of_nodup_map distinct listed (mem_gathered.mp member).1 same
        exact not_outOfReach_of_mem_gathered member (of_decide_eq_true outside)
      exact decide_eq_true different

/-- However many of its changes a reconciliation has made, what is out of reach is as it was. -/
theorem filter_outOfReach_performAll {store : Store} {wanted : Subscription} {kind : Shape}
    {made rest : List Call} (numbered : store.Numbered wanted.repository)
    (room : HasRoom store wanted kind)
    (planned : changes wanted kind (store.webhooks wanted.repository) = made ++ rest) :
    ((store.performAll made).webhooks wanted.repository).filter (OutOfReach wanted kind.events ·) =
      (store.webhooks wanted.repository).filter (OutOfReach wanted kind.events ·) := by
  induction made generalizing store with
  | nil => rfl
  | cons call made inductionHypothesis =>
      obtain ⟨leftover, _, due⟩ := due_of_changes_eq_cons planned
      obtain ⟨remaining, _⟩ := step_of_changes_eq_cons numbered planned
      have roomForCall : store.HasRoomFor call := room call (planned ▸ List.mem_cons_self)
      have onward := inductionHypothesis (numbered.perform roomForCall)
        (HasRoom.step numbered planned) remaining
      exact onward.trans (due.filter_outOfReach numbered.distinct)

/-- The changes depend on the listed webhooks alone. -/
theorem changes_listed (wanted : Subscription) (kind : Shape) (hooks : List Webhook) :
    changes wanted kind (hooks.filter fun hook => Event.all.any hook.subscribesTo) =
      changes wanted kind hooks := by
  simp only [changes, choose_listed, anchor?, others, gathered_listed]

theorem isMutation_of_touches {repository : Repository} {id : Int64} {call : Call}
    (touches : Touches repository id call) : call.isMutation = true := by
  cases call with
  | supportedEvents => exact touches.elim
  | list other filter => exact touches.elim
  | create other name events url => rfl
  | update other id name events url => rfl
  | delete other id => rfl

/-- What a change touches is a webhook that the chosen shape gathers. -/
theorem exists_gathered_of_touches {wanted : Subscription} {kind : Shape} {hooks : List Webhook}
    {call : Call} {repository : Repository} {id : Int64}
    (member : call ∈ changes wanted kind hooks) (touches : Touches repository id call) :
    repository = wanted.repository ∧
      ∃ hook ∈ gathered wanted (choose wanted kind hooks) hooks, hook.id = id := by
  unfold changes at member
  split at member
  · obtain rfl := List.mem_singleton.mp member
    exact touches.elim
  · rename_i anchor found
    rcases List.mem_append.mp member with isUpdate | isDeletion
    · split at isUpdate
      · exact absurd isUpdate List.not_mem_nil
      · obtain rfl := List.mem_singleton.mp isUpdate
        exact ⟨touches.1.symm, anchor, anchor_mem found, touches.2⟩
    · obtain ⟨hook, other, rfl⟩ := List.mem_map.mp isDeletion
      exact ⟨touches.1.symm, hook, (mem_others.mp other).1, touches.2⟩

/-- What a change touches is an own webhook of the listing. -/
theorem exists_own_of_touches {wanted : Subscription} {kind : Shape} {hooks : List Webhook}
    {call : Call} {repository : Repository} {id : Int64}
    (member : call ∈ changes wanted kind hooks) (touches : Touches repository id call) :
    repository = wanted.repository ∧ ∃ hook ∈ owned wanted hooks, hook.id = id := by
  obtain ⟨here, hook, inside, sameId⟩ := exists_gathered_of_touches member touches
  exact ⟨here, hook, List.mem_of_mem_filter inside, sameId⟩

/-! ## Runs -/

/-- Whatever it comes to, finding out what is wanted asks at most what is supported. -/
theorem run_resolveEvents_noEffect (store : Store) (wanted : Subscription) :
    (store.run (resolveEvents wanted)).2 =
      { store with journal := store.journal ++ probes wanted } := by
  unfold resolveEvents probes
  cases wanted.mirror with
  | false =>
      simp only [Bool.false_eq_true, if_false, List.append_nil]
      rfl
  | true =>
      simp only [if_true, Store.run, Dialogue.run_ask]
      rw [Store.answer_of_noEffect (.inl rfl)]
      generalize (Store.answer .supportedEvents store).1 = answer
      cases answer with
      | ok supported => rfl
      | error failure =>
          change (Dialogue.run _ (if failure.isMissingCapability then _ else _) _).2 = _
          split <;> rfl

/-- Whatever is set to fail, the wanted events are none or those of a shape. -/
theorem resolved_cases {store : Store} {wanted : Subscription} {events : EventSet}
    (resolved : (store.run (resolveEvents wanted)).1 = .ok events) :
    events = .empty ∨ ∃ kind : Shape, events = kind.events := by
  obtain ⟨calmAfter, run, _⟩ := Gateway.run_calm_of_ok (resolveEvents_givesUp wanted)
    (Prod.ext resolved rfl : store.run (resolveEvents wanted) = (.ok events, _))
  rw [run_resolveEvents fun _ => rfl] at run
  have same := Except.ok.inj (congrArg Prod.fst run)
  exact same ▸ wantedEvents_cases _ wanted

/-- Wherever it is cut off, the settled course has made the first of its changes and has perhaps
tried one more. -/
theorem run_settle_noCalm (store : Store) {wanted : Subscription} {kind : Shape}
    (distinct : ((store.webhooks wanted.repository).map Webhook.id).Nodup) :
    ∃ made tried, made ++ tried <+: changes wanted kind (store.webhooks wanted.repository) ∧
      (store.run (settle wanted kind (store.webhooks wanted.repository))).2 =
        { store.performAll made with journal := store.journal ++ (made ++ tried) } := by
  let calmStore : Store := { store with failing := fun _ => false }
  have calm : calmStore.Calm := fun _ => rfl
  have givesUp : Gateway.GivesUp (settle wanted kind (store.webhooks wanted.repository)) := by
    rw [← applyTo_eq_settle]
    exact applyTo_givesUp _ _ _
  have settled := @run_settle calmStore wanted kind calm distinct
  obtain ⟨calls, effect, course⟩ := Gateway.run_of_givesUp givesUp calm store.failing
  rw [show calmStore.webhooks = store.webhooks from rfl] at settled
  rw [settled] at effect course
  have sameCalls : changes wanted kind (store.webhooks wanted.repository) = calls :=
    List.append_cancel_left (congrArg Store.journal effect)
  subst sameCalls
  have back (made : List Call) (journal : List Call) :
      ({ calmStore.performAll made with failing := store.failing, journal } : Store) =
        { store.performAll made with journal } := by
    have same := Store.performAll_with store (fun _ => false) store.journal made
    change calmStore.performAll made = _ at same
    rw [same, ← Store.failing_performAll store made]
  rcases course with agrees | ⟨made, failed, isPrefix, _, stops⟩
  · refine ⟨changes wanted kind (store.webhooks wanted.repository), [], ?_, ?_⟩
    · simp only [List.append_nil, List.prefix_refl]
    · rw [List.append_nil]
      exact (congrArg Prod.snd agrees).trans (back _ _)
  · refine ⟨made, [failed], isPrefix, ?_⟩
    rw [← List.append_assoc]
    exact (congrArg Prod.snd stops).trans (back _ _)

/-- The own webhooks are found unless listing is set to fail. -/
theorem run_listOwned (store : Store) (wanted : Subscription)
    (passes : store.failing .list = false) :
    (store.run (listOwned wanted)).1 = .ok (owned wanted
      ((store.webhooks wanted.repository).filter fun hook =>
        Event.all.any hook.subscribesTo)) := by
  rw [listOwned, Store.run_require_of_ok passes rfl]
  rfl

/-- Whatever is set to fail, nothing is changed but own webhooks that have been listed: the first of
the changes are made, and perhaps one more is tried. -/
theorem run_apply_noCalm (store : Store) {wanted : Subscription} (kind : Shape)
    (distinct : ((store.webhooks wanted.repository).map Webhook.id).Nodup) :
    ∃ made tried, (store.run (apply wanted kind.events)).2 =
        { store.performAll made with
          journal := store.journal ++ .list wanted.repository Event.all :: (made ++ tried) } ∧
      (made ++ tried = [] ∨ store.failing .list = false ∧
        made ++ tried <+: changes wanted kind (store.webhooks wanted.repository)) := by
  cases fails : store.failing .list with
  | true =>
      refine ⟨[], [], ?_, .inl rfl⟩
      rw [apply, listOwned, Dialogue.require_andThen, Dialogue.require,
        Store.run_ask_of_fails fails]
      rfl
  | false =>
      obtain ⟨made, tried, isPrefix, after⟩ := @run_settle_noCalm
        { store with journal := store.journal ++ [.list wanted.repository Event.all] } wanted kind
        distinct
      refine ⟨made, tried, ?_, .inr ⟨rfl, isPrefix⟩⟩
      rw [Store.performAll_withJournal] at after
      rw [run_apply store wanted kind fails]
      refine after.trans ?_
      simp only [List.append_assoc, List.singleton_append]

/-- Whatever is set to fail, a reconciliation asks and changes nothing, or it has listed its own
webhooks, has made the first of its changes and has perhaps tried one more. -/
theorem run_reconcile_noCalm (store : Store) {wanted : Subscription}
    (distinct : ((store.webhooks wanted.repository).map Webhook.id).Nodup) :
    ∃ asked made tried, (∀ call ∈ asked, call.isMutation = false) ∧
      (store.run (reconcile wanted)).2 =
        { store.performAll made with journal := store.journal ++ (asked ++ (made ++ tried)) } ∧
      (made ++ tried = [] ∨ ∃ kind : Shape,
        (store.run (resolveEvents wanted)).1 = .ok kind.events ∧
          (store.run (listOwned wanted)).1 = .ok (owned wanted
            ((store.webhooks wanted.repository).filter fun hook =>
              Event.all.any hook.subscribesTo)) ∧
          made ++ tried <+: changes wanted kind (store.webhooks wanted.repository)) := by
  have probesOnly : ∀ call ∈ probes wanted, call.isMutation = false :=
    fun _ => isMutation_of_mem_probes
  have noEffect := run_resolveEvents_noEffect store wanted
  rw [reconcile, Store.run_andThen]
  generalize resolving : store.run (resolveEvents wanted) = resolved at noEffect ⊢
  obtain ⟨answer, asking⟩ := resolved
  obtain rfl : asking = { store with journal := store.journal ++ probes wanted } := noEffect
  cases answer with
  | error failure => exact ⟨probes wanted, [], [], probesOnly, by simp, .inl rfl⟩
  | ok events =>
      rcases resolved_cases (congrArg Prod.fst resolving) with rfl | ⟨kind, rfl⟩
      · exact ⟨probes wanted, [], [], probesOnly, by simp; rfl, .inl rfl⟩
      · obtain ⟨made, tried, after, course⟩ := run_apply_noCalm
          { store with journal := store.journal ++ probes wanted } kind distinct
        simp only [kind.events_isEmpty, Bool.false_eq_true, if_false]
        refine ⟨probes wanted ++ [.list wanted.repository Event.all], made, tried,
          List.forall_mem_append.mpr ⟨probesOnly, by simp [Call.isMutation]⟩, ?_, ?_⟩
        · rw [Store.performAll_withJournal] at after
          refine after.trans ?_
          simp only [List.append_assoc, List.singleton_append]
        · rcases course with nothing | ⟨passes, isPrefix⟩
          · exact .inl nothing
          · exact .inr ⟨kind, rfl, run_listOwned store wanted passes, isPrefix⟩

/-- Whatever is set to fail, and whether or not it succeeds, a reconciliation leaves the webhooks of
other repositories alone, and in its own repository those that are out of its reach; if it does not
find out which events are wanted, it leaves all webhooks alone.  Each webhook that it updates or
deletes, or tries to, is one of those that are listed as its own beforehand. -/
theorem reconcile_spares {store : Store} {wanted : Subscription}
    (numbered : store.Numbered wanted.repository) (room : store.nextId < Int64.maxValue) :
    ∃ result after calls, store.run (reconcile wanted) = (result, after) ∧
      after.journal = store.journal ++ calls ∧
      (∀ repository, repository ≠ wanted.repository →
        after.webhooks repository = store.webhooks repository) ∧
      (∀ failure, (store.run (resolveEvents wanted)).1 = .error failure →
        after.webhooks = store.webhooks) ∧
      (∀ events, (store.run (resolveEvents wanted)).1 = .ok events →
        (after.webhooks wanted.repository).filter (OutOfReach wanted events ·) =
          (store.webhooks wanted.repository).filter (OutOfReach wanted events ·)) ∧
      ∀ call ∈ calls, ∀ repository id, Touches repository id call →
        repository = wanted.repository ∧ ∃ own, (store.run (listOwned wanted)).1 = .ok own ∧
          ∃ hook ∈ own, hook.id = id := by
  obtain ⟨asked, made, tried, askedOnly, effect, course⟩ :=
    run_reconcile_noCalm store numbered.distinct
  have untouching : ∀ call ∈ asked, ∀ repository id, ¬Touches repository id call := by
    intro call member repository id touches
    have mutates := isMutation_of_touches touches
    rw [askedOnly call member] at mutates
    cases mutates
  refine ⟨(store.run (reconcile wanted)).1, (store.run (reconcile wanted)).2,
    asked ++ (made ++ tried), rfl, by rw [effect], ?_⟩
  rw [effect]
  rcases course with nothing | ⟨kind, resolved, listed, isPrefix⟩
  · obtain ⟨rfl, rfl⟩ := List.append_eq_nil_iff.mp nothing
    refine ⟨fun _ _ => rfl, fun _ _ => rfl, fun _ _ => rfl, fun call member => ?_⟩
    rw [List.append_nil, List.append_nil] at member
    exact fun repository id touches => absurd touches (untouching call member repository id)
  · obtain ⟨rest, planned⟩ := isPrefix
    rw [List.append_assoc] at planned
    have isChange {call : Call} (member : call ∈ made ++ tried) :
        call ∈ changes wanted kind (store.webhooks wanted.repository) := by
      rw [← planned, ← List.append_assoc]
      exact List.mem_append_left rest member
    refine ⟨?_, ?_, ?_, ?_⟩
    · intro repository elsewhere
      apply Store.webhooks_performAll_of_target_ne
      intro call member same
      rw [target?_of_mem_changes (isChange (List.mem_append_left tried member))] at same
      exact elsewhere (Option.some.inj same).symm
    · intro failure fails
      exact absurd (resolved.symm.trans fails) (by simp)
    · intro events isEvents
      obtain rfl := Except.ok.inj (resolved.symm.trans isEvents)
      exact filter_outOfReach_performAll numbered (fun _ _ _ => room) planned.symm
    · intro call member repository id touches
      rcases List.mem_append.mp member with asking | changing
      · exact absurd touches (untouching call asking repository id)
      · have isListed := isChange changing
        rw [← changes_listed] at isListed
        obtain ⟨here, hook, own, sameId⟩ := exists_own_of_touches isListed touches
        exact ⟨here, _, listed, hook, own, sameId⟩

theorem reconcile_spares_cut_off :
    let built := Store.empty.performAll [.create ⟨"P", "r"⟩ "ci" .refChange "https://old",
      .create ⟨"P", "r"⟩ "other" .refAndPullRequest "https://other",
      .create ⟨"P", "r"⟩ "ci" .mirrorSync "https://old",
      .create ⟨"P", "r"⟩ "former" .pullRequest "https://ci"]
    let store := built.failOn .delete
    let wanted : Subscription := ⟨⟨"P", "r"⟩, "ci", "https://ci", false, true, true⟩
    store.Numbered wanted.repository ∧ store.nextId < Int64.maxValue ∧
      ∃ failure after, store.run (reconcile wanted) = (.error failure, after) ∧
        (after.webhooks wanted.repository).filter (OutOfReach wanted .refAndPullRequest ·) =
          [⟨2, "other", EventSet.refAndPullRequest.names, "https://other", true⟩,
            ⟨3, "ci", EventSet.mirrorSync.names, "https://old", true⟩] := by
  intro built store wanted
  have numbered : store.Numbered wanted.repository := by
    have built : built.Numbered wanted.repository :=
      ((((Store.numbered_empty wanted.repository).perform fun _ => by decide).perform
        fun _ => by decide).perform fun _ => by decide).perform fun _ => by decide
    exact built.congr rfl rfl
  have room : store.nextId < Int64.maxValue := by decide
  obtain ⟨result, after, calls, run, _, _, _, spared, _⟩ :=
    @reconcile_spares store wanted numbered room
  obtain ⟨failure, fails⟩ : ∃ failure, (store.run (reconcile wanted)).1 = .error failure :=
    ⟨_, rfl⟩
  refine ⟨numbered, room, failure, after, ?_, ?_⟩
  · rw [← fails, run]
  · have asked : wanted.triggeredEvents = .refAndPullRequest := by decide
    rw [spared .refAndPullRequest (congrArg Except.ok asked)]
    decide

end WebhookSync.Reconcile
