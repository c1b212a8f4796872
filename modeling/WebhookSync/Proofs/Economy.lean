import WebhookSync.Proofs.Racing
import WebhookSync.Proofs.Reach

/-!
# No wasted call

A reconciliation lists the webhooks at most once, and no change that it makes is idle: each leaves
other webhooks behind than it found, unless it fails, and no webhook is changed twice.  Where
nothing fails, it changes nothing just when nothing has to be changed: the bucket on which it works
holds one webhook alone, and that one is up to date (`reconcile_wastes_nothing`).
-/

namespace WebhookSync

namespace Gateway

/-- The id of the webhook that a call creates, updates or deletes, where this is the next id. -/
def Call.changedId? (nextId : Int64) : Call → Option Int64
  | .supportedEvents | .list _ _ => none
  | .create _ _ _ _ => some nextId
  | .update _ id _ _ _ | .delete _ id => some id

/-- The next id counts for creations only. -/
theorem Call.changedId?_congr {call : Call} (other : call.operation ≠ .create)
    (nextId nextId' : Int64) : call.changedId? nextId = call.changedId? nextId' := by
  cases call with
  | create repository name events url => exact absurd rfl other
  | supportedEvents => rfl
  | list repository filter => rfl
  | update repository id name events url => rfl
  | delete repository id => rfl

theorem Call.changedId?_of_not_isMutation {call : Call} (reads : call.isMutation = false)
    (nextId : Int64) : call.changedId? nextId = none := by
  cases call with
  | supportedEvents => rfl
  | list repository filter => rfl
  | create repository name events url => cases reads
  | update repository id name events url => cases reads
  | delete repository id => cases reads

/-- A call with the store that answers it. -/
structure Occasion where
  store : Store
  call : Call

namespace Occasion

/-- The call is answered with a failure. -/
def Fails (occasion : Occasion) : Prop :=
  ∃ failure, (Store.answer occasion.call occasion.store).1 = .error failure

/-- The call leaves other webhooks behind than it found. -/
def Changes (occasion : Occasion) : Prop :=
  (Store.answer occasion.call occasion.store).2.webhooks ≠ occasion.store.webhooks

/-- The id of the webhook that the call creates, updates or deletes. -/
def changedId? (occasion : Occasion) : Option Int64 :=
  occasion.call.changedId? occasion.store.nextId

end Occasion

namespace Store

/-- The calls of a session, each with the store that answers it. -/
def occasions {α : Type} : Session α → Store → List Occasion
  | .done _, _ => []
  | .ask call next, store =>
      let answered := answer call store
      ⟨store, call⟩ :: occasions (next answered.1) answered.2

variable {α β : Type}

/-- The journal has the calls of a session in their order. -/
theorem journal_run (session : Session α) (store : Store) :
    (store.run session).2.journal =
      store.journal ++ (occasions session store).map Occasion.call := by
  induction session generalizing store with
  | done result => simp [run, occasions]
  | ask call next inductionHypothesis =>
      have onward := inductionHypothesis (answer call store).1 (answer call store).2
      rw [journal_answer, List.append_assoc] at onward
      exact onward

theorem occasions_bind (first : Session α) (second : α → Session β) (store : Store) :
    occasions (first.bind second) store =
      occasions first store ++ occasions (second (store.run first).1) (store.run first).2 := by
  induction first generalizing store with
  | done result => rfl
  | ask call next inductionHypothesis => exact congrArg (_ :: ·) (inductionHypothesis _ _)

theorem occasions_andThen (first : Session (Except Failure α))
    (second : α → Session (Except Failure β)) (store : Store) :
    occasions (first.andThen second) store =
      occasions first store ++
        match store.run first with
        | (.error _, _) => []
        | (.ok result, after) => occasions (second result) after := by
  rw [Dialogue.andThen, occasions_bind]
  rcases store.run first with ⟨failure | result, after⟩ <;> rfl

/-- Where a call fails, what requires its reply makes no other call. -/
theorem occasions_require_of_fails {call : Call} {store : Store}
    {next : call.Reply → Session (Except Failure β)}
    (fails : store.failing call.operation = true) :
    occasions (.require call next) store = [⟨store, call⟩] := by
  rw [Dialogue.require, occasions, answer_of_fails fails]
  rfl

theorem occasions_require_of_ok {call : Call} {store : Store} {reply : call.Reply}
    {next : call.Reply → Session (Except Failure β)}
    (passes : store.failing call.operation = false)
    (answered : (store.perform call).1 = .ok reply) :
    occasions (.require call next) store =
      ⟨store, call⟩ ::
        occasions (next reply)
          { (store.perform call).2 with journal := store.journal ++ [call] } := by
  rw [Dialogue.require, occasions, answer_of_passes passes, answered]

end Store

end Gateway

namespace Reconcile

open Gateway (Call Occasion Store)

/-- The events of the one webhook that is left in the bucket on which a reconciliation works that
finds these own webhooks. -/
def workTarget (events : EventSet) (found : List Webhook) : EventSet :=
  if events.any Event.isMirrorSync then .mirrorSync
  else (TriggerPlan.choose (events.any Event.isRefChange) (events.any Event.isPullRequest)
    (Buckets.classify found)).target

theorem workTarget_eq (wanted : Subscription) (kind : Shape) (hooks : List Webhook) :
    workTarget kind.events (owned wanted hooks) = (choose wanted kind hooks).events := by
  unfold workTarget
  by_cases isMirror : kind = .mirror
  · subst isMirror
    have chosen : choose wanted .mirror hooks = .mirror :=
      (choose_eq_or wanted .mirror hooks).elim id id
    rw [chosen]
    rfl
  · obtain ⟨_, target⟩ := plan_eq_choose wanted isMirror hooks hooks
    simp only [Shape.any_isMirrorSync, isMirror, decide_false, Bool.false_eq_true, if_false]
    exact target

/-! ## Changes that count -/

/-- The change that is due is not idle. -/
theorem Due.webhooks_ne {store : Store} {wanted : Subscription} {kind : Shape} {call : Call}
    {leftover : List Webhook} (distinct : ((store.webhooks wanted.repository).map Webhook.id).Nodup)
    (due : Due wanted kind (store.webhooks wanted.repository) call leftover) :
    (store.perform call).2.webhooks ≠ store.webhooks := by
  intro same
  have whole := due.kept distinct
  rw [same] at whole
  cases due with
  | create nothing => exact absurd (nothing.symm.trans whole.anchor) (by simp)
  | update found unfit =>
      obtain rfl := Option.some.inj (found.symm.trans whole.anchor)
      exact absurd (unfit.symm.trans whole.fit) (by simp)
  | delete before =>
      obtain rfl := Option.some.inj (before.anchor.symm.trans whole.anchor)
      exact absurd (before.rest.symm.trans whole.rest) (by simp)

/-- The settled course makes the first of its changes, and each of them counts unless it is set to
fail. -/
theorem occasions_settle (store : Store) {wanted : Subscription} {kind : Shape}
    (distinct : ((store.webhooks wanted.repository).map Webhook.id).Nodup) (journal : List Call) :
    let made := Store.occasions (settle wanted kind (store.webhooks wanted.repository))
      { store with journal }
    made.map Occasion.call <+: changes wanted kind (store.webhooks wanted.repository) ∧
      ∀ occasion ∈ made,
        store.failing occasion.call.operation = true ∧ occasion.Fails ∨ occasion.Changes := by
  revert journal
  refine changes_induction wanted kind ?settled ?change store distinct
  case settled =>
    intro store kept whole _ journal
    rw [whole.settle_eq]
    exact ⟨List.nil_prefix, fun occasion member => absurd member List.not_mem_nil⟩
  case change =>
    intro store call leftover distinct planned due onward journal
    obtain ⟨next, reply, begins, answered, continues⟩ := due.settle_eq distinct
    rw [begins, planned]
    cases fails : store.failing call.operation with
    | true =>
        have failsThere : ({ store with journal } : Store).failing call.operation = true := fails
        rw [Store.occasions_require_of_fails failsThere]
        refine ⟨⟨deletions wanted.repository leftover, rfl⟩, fun occasion member => .inl ?_⟩
        obtain rfl := List.mem_singleton.mp member
        exact ⟨fails, _, congrArg Prod.fst (Store.answer_of_fails failsThere)⟩
    | false =>
        have passes : ({ store with journal } : Store).failing call.operation = false := fails
        have effect := Store.perform_withJournal store journal call
        have answeredThere : (({ store with journal } : Store).perform call).1 = .ok reply := by
          rw [effect, answered]
        obtain ⟨isPrefix, counts⟩ := onward (journal ++ [call])
        rw [(due.kept distinct).changes_eq] at isPrefix
        rw [Store.occasions_require_of_ok passes answeredThere, effect, continues]
        refine ⟨List.cons_prefix_cons.mpr ⟨rfl, isPrefix⟩, ?_⟩
        intro occasion member
        rcases List.mem_cons.mp member with rfl | later
        · right
          rw [Occasion.Changes, Store.answer_of_passes passes, effect]
          exact due.webhooks_ne distinct
        · rw [← Store.failing_perform store call]
          exact counts occasion later

/-- Finding out what is wanted is asking at most what is supported. -/
theorem occasions_resolveEvents (store : Store) (wanted : Subscription) :
    (Store.occasions (resolveEvents wanted) store).map Occasion.call = probes wanted := by
  have journal := Store.journal_run (resolveEvents wanted) store
  rw [run_resolveEvents_noEffect] at journal
  exact (List.append_cancel_left journal).symm

/-- A reconciliation asks what it has to know, and then perhaps takes the settled course. -/
theorem occasions_reconcile (store : Store) (wanted : Subscription) :
    ∃ asked made, Store.occasions (reconcile wanted) store = asked ++ made ∧
      asked.map Occasion.call <+: probes wanted ++ [.list wanted.repository Event.all] ∧
      (made = [] ∨ ∃ kind journal, made =
        Store.occasions (settle wanted kind (store.webhooks wanted.repository))
          { store with journal }) := by
  have probing := occasions_resolveEvents store wanted
  have noEffect := run_resolveEvents_noEffect store wanted
  rw [reconcile, Store.occasions_andThen]
  generalize resolving : store.run (resolveEvents wanted) = resolved at noEffect ⊢
  obtain ⟨answer, asking⟩ := resolved
  obtain rfl : asking = { store with journal := store.journal ++ probes wanted } := noEffect
  have probesOnly : (Store.occasions (resolveEvents wanted) store).map Occasion.call <+:
      probes wanted ++ [.list wanted.repository Event.all] := by
    rw [probing]
    exact List.prefix_append _ _
  cases answer with
  | error failure => exact ⟨_, [], rfl, probesOnly, .inl rfl⟩
  | ok events =>
      rcases resolved_cases (congrArg Prod.fst resolving) with rfl | ⟨kind, rfl⟩
      · exact ⟨_, [], rfl, probesOnly, .inl rfl⟩
      · simp only [kind.events_isEmpty, Bool.false_eq_true, if_false]
        rw [apply_eq_require]
        cases fails : store.failing .list with
        | true =>
            rw [Store.occasions_require_of_fails fails]
            refine ⟨_, [], (List.append_nil _).symm, ?_, .inl rfl⟩
            rw [List.map_append, probing]
            exact List.prefix_refl _
        | false =>
            rw [Store.occasions_require_of_ok fails rfl, settle_listed]
            refine ⟨Store.occasions (resolveEvents wanted) store ++ [_], _,
              (List.append_cons _ _ _), ?_, .inr ⟨kind, _, rfl⟩⟩
            rw [List.map_append, probing]
            exact List.prefix_refl _

/-- A reconciliation asks what it has to know, and then makes the first of its changes, of which
each counts unless it is set to fail. -/
theorem occasions_reconcile_changes {store : Store} {wanted : Subscription}
    (distinct : ((store.webhooks wanted.repository).map Webhook.id).Nodup) :
    ∃ kind asked made, Store.occasions (reconcile wanted) store = asked ++ made ∧
      asked.map Occasion.call <+: probes wanted ++ [.list wanted.repository Event.all] ∧
      made.map Occasion.call <+: changes wanted kind (store.webhooks wanted.repository) ∧
      ∀ occasion ∈ made,
        store.failing occasion.call.operation = true ∧ occasion.Fails ∨ occasion.Changes := by
  obtain ⟨asked, made, split, questions, rfl | ⟨kind, earlier, rfl⟩⟩ :=
    occasions_reconcile store wanted
  · exact ⟨.mirror, asked, [], split, questions, List.nil_prefix,
      fun occasion member => absurd member List.not_mem_nil⟩
  · obtain ⟨isPrefix, counts⟩ := occasions_settle store distinct earlier
    exact ⟨kind, asked, _, split, questions, isPrefix, counts⟩

/-- What a reconciliation asks changes nothing. -/
theorem isMutation_of_asked {wanted : Subscription} {asked : List Occasion}
    (questions : asked.map Occasion.call <+:
      probes wanted ++ [.list wanted.repository Event.all]) :
    ∀ occasion ∈ asked, occasion.call.isMutation = false := by
  intro occasion member
  have question := questions.subset (List.mem_map_of_mem member)
  rcases List.mem_append.mp question with probing | listing
  · exact isMutation_of_mem_probes probing
  · rw [List.mem_singleton.mp listing]
    rfl

/-- The webhooks are listed at most once. -/
theorem countP_list_le_one {wanted : Subscription} {kind : Shape} {hooks : List Webhook}
    {asked made : List Call}
    (questions : asked <+: probes wanted ++ [.list wanted.repository Event.all])
    (isPrefix : made <+: changes wanted kind hooks) :
    (asked ++ made).countP (fun call => call.operation = .list) ≤ 1 := by
  have madeNone : made.countP (fun call => call.operation = .list) = 0 := by
    rw [List.countP_eq_zero]
    intro call member lists
    have mutates := isMutation_of_mem_changes (isPrefix.subset member)
    cases call <;> simp [Call.operation, Call.isMutation] at lists mutates
  rw [List.countP_append, madeNone, Nat.add_zero]
  apply Nat.le_trans questions.sublist.countP_le
  unfold probes
  split <;> simp [Call.operation]

/-- The webhook that is kept and those that are deleted are all different. -/
theorem nodup_ids {wanted : Subscription} {shape : Shape} {hooks : List Webhook}
    (distinct : (hooks.map Webhook.id).Nodup) (anchor : Webhook) :
    (anchor.id :: (others wanted shape anchor hooks).map Webhook.id).Nodup := by
  refine List.nodup_cons.mpr ⟨?_, ?_⟩
  · intro member
    obtain ⟨other, isOther, same⟩ := List.mem_map.mp member
    exact (mem_others.mp isOther).2 same
  · exact (distinct_gathered distinct wanted shape).sublist (List.filter_sublist.map _)

/-- Where there is an anchor, it is perhaps rewritten, and the others are deleted. -/
theorem changes_sublist {wanted : Subscription} {kind : Shape} {hooks : List Webhook}
    {anchor : Webhook} (found : anchor? wanted (choose wanted kind hooks) hooks = some anchor) :
    (changes wanted kind hooks).Sublist
      (.update wanted.repository anchor.id wanted.name (choose wanted kind hooks).events
          wanted.callbackUrl ::
        deletions wanted.repository (others wanted (choose wanted kind hooks) anchor hooks)) := by
  rw [changes, found]
  dsimp only
  split
  · exact List.sublist_cons_self _ _
  · exact List.Sublist.refl _

/-- No webhook is changed twice. -/
theorem nodup_changedId? {wanted : Subscription} {kind : Shape} {hooks : List Webhook}
    (distinct : (hooks.map Webhook.id).Nodup) {made : List Occasion}
    (isPrefix : made.map Occasion.call <+: changes wanted kind hooks) :
    (made.filterMap Occasion.changedId?).Nodup := by
  cases found : anchor? wanted (choose wanted kind hooks) hooks with
  | none =>
      rw [changes, found] at isPrefix
      have single : (made.filterMap Occasion.changedId?).length ≤ 1 :=
        Nat.le_trans (List.length_filterMap_le _ made) (by simpa using isPrefix.length_le)
      rcases changed : made.filterMap Occasion.changedId? with _ | ⟨id, _ | ⟨second, rest⟩⟩
      · exact List.nodup_nil
      · exact List.nodup_singleton id
      · simp [changed] at single
  | some anchor =>
      have calls := isPrefix.sublist.trans (changes_sublist found)
      -- Nothing is created, so the next id does not count.
      have noCreation : ∀ occasion ∈ made,
          occasion.changedId? = (Call.changedId? 0 ∘ Occasion.call) occasion := by
        intro occasion member
        apply Call.changedId?_congr
        rcases List.mem_cons.mp (calls.subset (List.mem_map_of_mem member)) with same | deletes
        · rw [same]
          simp [Call.operation]
        · exact operation_ne_create_of_mem_deletions deletes
      rw [List.filterMap_congr noCreation, ← List.filterMap_map]
      refine List.Nodup.sublist (calls.filterMap _) ?_
      simpa [deletions, List.filterMap_map, Call.changedId?, Function.comp_def] using
        nodup_ids distinct anchor

/-! ## When nothing is to be changed -/

/-- Nothing is to be changed just when one webhook alone is gathered, and that one fits. -/
theorem changes_eq_nil_iff_gathered {wanted : Subscription} {kind : Shape} {hooks : List Webhook}
    (distinct : (hooks.map Webhook.id).Nodup) :
    changes wanted kind hooks = [] ↔
      ∃ hook, gathered wanted (choose wanted kind hooks) hooks = [hook] ∧
        fits wanted (choose wanted kind hooks) hook = true := by
  rw [changes_eq_nil_iff]
  constructor
  · rintro ⟨kept, whole⟩
    exact ⟨kept, whole.gathered_eq distinct, whole.fit⟩
  · rintro ⟨hook, alone, fit⟩
    refine ⟨hook, ?_, fit, ?_⟩
    · apply anchor?_eq_some_of_find?
      rw [alone]
      exact List.find?_cons_of_pos fit
    · simp [others, alone]

/-- All changes together change nothing only if there are none. -/
theorem completed_webhooks_eq_iff {store : Store} {wanted : Subscription} {kind : Shape}
    (distinct : ((store.webhooks wanted.repository).map Webhook.id).Nodup) :
    (completed store wanted kind).webhooks = store.webhooks ↔
      changes wanted kind (store.webhooks wanted.repository) = [] := by
  constructor
  · intro same
    have nothing := @changes_completed store wanted kind distinct
    rwa [same] at nothing
  · intro nothing
    rw [completed_eq_self nothing]

/-- Only the changes of a reconciliation are mutations. -/
theorem forall_reads_iff (wanted : Subscription) (kind : Shape) (hooks : List Webhook) :
    (∀ call ∈ probes wanted ++ [Call.list wanted.repository Event.all] ++
        changes wanted kind hooks, call.isMutation = false) ↔ changes wanted kind hooks = [] := by
  rw [← filter_isMutation_calls wanted kind hooks, List.filter_eq_nil_iff]
  simp only [filter_isMutation_calls, Bool.not_eq_true]

/-- Where nothing is set to fail, to change nothing, to leave all webhooks as they were, and to have
one webhook alone that fits, all come to the same. -/
theorem idle_iff {store : Store} {wanted : Subscription} {kind : Shape} (calm : store.Calm)
    (distinct : ((store.webhooks wanted.repository).map Webhook.id).Nodup)
    (asked : wantedEvents store.capabilities wanted = kind.events) {calls : List Call}
    (journal : (store.run (reconcile wanted)).2.journal = store.journal ++ calls) :
    ((∀ call ∈ calls, call.isMutation = false) ↔
        (store.run (reconcile wanted)).2.webhooks = store.webhooks) ∧
      ((∀ call ∈ calls, call.isMutation = false) ↔
        ∃ hook, gathered wanted (choose wanted kind (store.webhooks wanted.repository))
            (store.webhooks wanted.repository) = [hook] ∧
          fits wanted (choose wanted kind (store.webhooks wanted.repository)) hook = true) := by
  have isEnd : (store.run (reconcile wanted)).2 = { completed store wanted kind with
      journal := store.journal ++ (probes wanted ++ [.list wanted.repository Event.all] ++
        changes wanted kind (store.webhooks wanted.repository)) } :=
    congrArg Prod.snd (run_reconcile_of_distinct calm distinct asked)
  rw [isEnd] at journal ⊢
  rw [← List.append_cancel_left journal, forall_reads_iff]
  constructor
  · exact (completed_webhooks_eq_iff distinct).symm
  · exact changes_eq_nil_iff_gathered distinct

/-- Whatever is set to fail, a change that a reconciliation makes leaves other webhooks behind than
it found, unless its kind is set to fail and it fails; no webhook is changed twice, and the webhooks
are listed at most once.  Where nothing is set to fail and some event is wanted, to change nothing,
to leave all webhooks as they were, and to find one webhook alone in the bucket to work on, which is
up to date, all come to the same. -/
theorem reconcile_wastes_nothing {store : Store} {wanted : Subscription}
    (distinct : ((store.webhooks wanted.repository).map Webhook.id).Nodup) :
    let occasions := Store.occasions (reconcile wanted) store
    let calls := occasions.map Occasion.call
    let after := (store.run (reconcile wanted)).2
    after.journal = store.journal ++ calls ∧
      (∀ occasion ∈ occasions, occasion.call.isMutation = true →
        store.failing occasion.call.operation = true ∧ occasion.Fails ∨ occasion.Changes) ∧
      (occasions.filterMap Occasion.changedId?).Nodup ∧
      calls.countP (fun call => call.operation = .list) ≤ 1 ∧
      (store.Calm → ∃ events own,
        (store.run (resolveEvents wanted)).1 = .ok events ∧
        (store.run (listOwned wanted)).1 = .ok own ∧
        (events.isEmpty = false →
          ((∀ call ∈ calls, call.isMutation = false) ↔ after.webhooks = store.webhooks) ∧
          ((∀ call ∈ calls, call.isMutation = false) ↔
            ∃ hook, workBucket events own own = [hook] ∧
              hook.isUpToDate wanted.name wanted.callbackUrl (workTarget events own) = true))) := by
  intro occasions calls after
  have journal : after.journal = store.journal ++ calls := Store.journal_run _ _
  obtain ⟨kind, asked, made, split, questions, isPrefix, counts⟩ :=
    occasions_reconcile_changes distinct
  have asks := isMutation_of_asked questions
  refine ⟨journal, ?_, ?_, ?_, ?_⟩
  · intro occasion member mutates
    rw [show occasions = asked ++ made from split] at member
    rcases List.mem_append.mp member with asking | making
    · exact absurd mutates (by simp [asks occasion asking])
    · exact counts occasion making
  · have askedNone : asked.filterMap Occasion.changedId? = [] := by
      rw [List.filterMap_eq_nil_iff]
      intro occasion member
      exact Call.changedId?_of_not_isMutation (asks occasion member) _
    rw [show occasions = asked ++ made from split, List.filterMap_append, askedNone]
    exact nodup_changedId? distinct isPrefix
  · rw [show calls = asked.map Occasion.call ++ made.map Occasion.call by
      rw [← List.map_append, ← split]]
    exact countP_list_le_one questions isPrefix
  · intro calm
    have listed := run_listOwned store wanted (calm .list)
    refine ⟨_, _, congrArg Prod.fst (run_resolveEvents calm wanted), listed, ?_⟩
    intro something
    rcases wantedEvents_cases store.capabilities wanted with nothing | ⟨kind, asked⟩
    · rw [nothing] at something
      exact absurd something (by decide)
    · rw [asked, workBucket_eq, workTarget_eq, choose_listed, gathered_listed]
      exact idle_iff calm distinct asked journal

theorem reconcile_wastes_nothing_when_settled :
    let settled : Webhook := ⟨1, "ci", EventSet.refAndPullRequest.names, "https://ci", true⟩
    let mirror : Webhook := ⟨2, "ci", EventSet.mirrorSync.names, "https://old", true⟩
    let other : Webhook := ⟨3, "other", EventSet.refChange.names, "https://other", true⟩
    let store := { Store.empty.setWebhooks ⟨"P", "r"⟩ [mirror, other, settled] with nextId := 4 }
    let wanted : Subscription := ⟨⟨"P", "r"⟩, "ci", "https://ci", false, true, false⟩
    let occasions := Store.occasions (reconcile wanted) store
    let after := (store.run (reconcile wanted)).2
    ((store.webhooks wanted.repository).map Webhook.id).Nodup ∧ store.Calm ∧
      (occasions.map Occasion.call).countP (fun call => call.operation = .list) ≤ 1 ∧
      (∀ call ∈ occasions.map Occasion.call, call.isMutation = false) ∧
      after.webhooks = store.webhooks := by
  intro settled mirror other store wanted occasions after
  have distinct : ((store.webhooks wanted.repository).map Webhook.id).Nodup := by decide
  have calm : store.Calm := Store.calm_empty
  obtain ⟨_, _, _, lists, whenCalm⟩ := @reconcile_wastes_nothing store wanted distinct
  obtain ⟨events, own, resolved, listed, idle⟩ := whenCalm calm
  obtain rfl : wanted.triggeredEvents = events := Except.ok.inj resolved
  obtain rfl : [mirror, settled] = own := Except.ok.inj listed
  obtain ⟨leavesAll, findsOne⟩ := idle (by decide)
  have readsOnly := findsOne.mpr ⟨settled, by decide, by decide⟩
  exact ⟨distinct, calm, lists, readsOnly, leavesAll.mp readsOnly⟩

end Reconcile

end WebhookSync
