import WebhookSync.Proofs.Gateway.GivesUp
import WebhookSync.Proofs.Reconcile.Progress

/-!
# Runs with a store

With a store in which nothing is set to fail, a reconciliation runs to its end: it asks what it has
to know, makes its changes in order, and ends with the webhook that it keeps
(`run_reconcile_of_distinct`).  Of the repository there remain this webhook and what the
reconciliation left alone (`mem_completed`); the webhooks of other repositories stay as they are.
-/

namespace WebhookSync.Reconcile

open Gateway (Call GivesUp Store)

/-! ## The wanted events -/

/-- The events that a subscription asks for where a server reports these capabilities, or reports
none. -/
def wantedEvents (capabilities : Option EventSet) (wanted : Subscription) : EventSet :=
  if wanted.mirror then
    match capabilities with
    | some supported => mirrorEvents supported
    | none => .refChange
  else wanted.triggeredEvents

/-- The calls by which a reconciliation finds out what it has to strive for. -/
def probes (wanted : Subscription) : List Call :=
  if wanted.mirror then [.supportedEvents] else []

theorem mirrorEvents_cases (supported : EventSet) :
    mirrorEvents supported = .empty ∨ ∃ kind : Shape, mirrorEvents supported = kind.events := by
  unfold mirrorEvents
  split
  · exact .inr ⟨.mirror, rfl⟩
  · split
    · exact .inr ⟨.refOnly, rfl⟩
    · exact .inl rfl

theorem triggeredEvents_cases (wanted : Subscription) :
    wanted.triggeredEvents = .empty ∨ ∃ kind : Shape, wanted.triggeredEvents = kind.events := by
  unfold Subscription.triggeredEvents
  cases wanted.onRefChange with
  | false =>
      cases wanted.onPullRequest with
      | false => exact .inl (EventSet.ext fun _ => rfl)
      | true => exact .inr ⟨.pullRequestOnly, EventSet.ext fun _ => rfl⟩
  | true =>
      cases wanted.onPullRequest with
      | false =>
          refine .inr ⟨.refOnly, EventSet.ext fun event => ?_⟩
          simp [EventSet.ofTest, Shape.events, EventSet.refChange]
      | true =>
          refine .inr ⟨.combined, EventSet.ext fun event => ?_⟩
          cases event <;> rfl

/-- The triggers never ask for the mirror synchronisation. -/
theorem broadest_of_triggeredEvents {wanted : Subscription} {kind : Shape}
    (asked : wanted.triggeredEvents = kind.events) : kind.broadest = .combined := by
  cases kind with
  | mirror =>
      have triggered : wanted.triggeredEvents.contains .mirrorSynchronized =
          (wanted.onRefChange && false || wanted.onPullRequest && false) := rfl
      rw [asked, Bool.and_false, Bool.and_false] at triggered
      exact absurd triggered (by decide)
  | refOnly => rfl
  | pullRequestOnly => rfl
  | combined => rfl

/-- A subscription asks for nothing, or for the events of one shape. -/
theorem wantedEvents_cases (capabilities : Option EventSet) (wanted : Subscription) :
    wantedEvents capabilities wanted = .empty ∨
      ∃ kind : Shape, wantedEvents capabilities wanted = kind.events := by
  unfold wantedEvents
  split
  · cases capabilities with
    | none => exact .inr ⟨.refOnly, rfl⟩
    | some supported => exact mirrorEvents_cases supported
  · exact triggeredEvents_cases wanted

theorem run_resolveEvents {store : Store} (calm : store.Calm) (wanted : Subscription) :
    store.run (resolveEvents wanted) =
      (.ok (wantedEvents store.capabilities wanted),
        { store with journal := store.journal ++ probes wanted }) := by
  unfold resolveEvents wantedEvents probes
  cases wanted.mirror with
  | false =>
      simp only [Bool.false_eq_true, if_false, List.append_nil]
      rfl
  | true =>
      simp only [if_true]
      rcases store with ⟨hooks, nextId, _ | supported, failing, journal⟩
      · rw [Store.run, Dialogue.run_ask, Store.answer_of_passes (calm _)]
        rfl
      · rw [Store.run, Dialogue.run_ask, Store.answer_of_passes (calm _)]
        rfl

/-! ## Giving up -/

theorem resolveEvents_givesUp (wanted : Subscription) : GivesUp (resolveEvents wanted) := by
  unfold resolveEvents
  split
  · refine GivesUp.ask ?_ fun answer => ?_
    · rfl
    · cases answer with
      | ok supported => exact .done _
      | error failure =>
          change GivesUp (if failure.isMissingCapability then _ else _)
          split
          · exact .done _
          · exact .done _
  · exact .done _

theorem deleteAll_givesUp {α : Type} (repository : Repository) (result : α) (hooks : List Webhook) :
    GivesUp (deleteAll repository result hooks) := by
  induction hooks with
  | nil => exact .done _
  | cons hook rest inductionHypothesis => exact .require fun _ => inductionHypothesis

theorem align_givesUp (wanted : Subscription) (bucket : List Webhook) (target : EventSet) :
    GivesUp (align wanted bucket target) := by
  unfold align
  split
  · exact .done _
  · split
    · exact deleteAll_givesUp _ _ _
    · exact .require fun _ => deleteAll_givesUp _ _ _

theorem alignIf_givesUp (isWanted : Bool) (wanted : Subscription) (bucket : List Webhook)
    (target : EventSet) : GivesUp (alignIf isWanted wanted bucket target) := by
  unfold alignIf
  split
  · exact (align_givesUp wanted bucket target).andThen fun _ => .done _
  · exact .done _

theorem applyTo_givesUp (wanted : Subscription) (events : EventSet) (own : List Webhook) :
    GivesUp (applyTo wanted events own) := by
  simp only [applyTo]
  split
  · exact .require fun _ => .done _
  · apply (alignIf_givesUp _ _ _ _).andThen
    intro mirror
    exact (alignIf_givesUp _ _ _ _).andThen fun _ => .done _

/-- A reconciliation gives up at the first call that is set to fail. -/
theorem reconcile_givesUp (wanted : Subscription) : GivesUp (reconcile wanted) := by
  apply (resolveEvents_givesUp wanted).andThen
  intro events
  split
  · exact .done _
  · have listing : GivesUp (listOwned wanted) := .require fun _ => .done _
    exact listing.andThen (applyTo_givesUp wanted events)

/-! ## The changes -/

theorem operation_ne_create_of_mem_deletions {repository : Repository} {hooks : List Webhook}
    {call : Call} (member : call ∈ deletions repository hooks) : call.operation ≠ .create := by
  obtain ⟨hook, _, rfl⟩ := List.mem_map.mp member
  exact fun same => by simp [Call.operation] at same

/-- All changes are made in the repository of the subscription. -/
theorem target?_of_mem_changes {wanted : Subscription} {kind : Shape} {hooks : List Webhook}
    {call : Call} (member : call ∈ changes wanted kind hooks) :
    Store.target? call = some wanted.repository := by
  unfold changes at member
  split at member
  · obtain rfl := List.mem_singleton.mp member
    rfl
  · rcases List.mem_append.mp member with isUpdate | isDeletion
    · split at isUpdate
      · exact absurd isUpdate List.not_mem_nil
      · obtain rfl := List.mem_singleton.mp isUpdate
        rfl
    · obtain ⟨hook, _, rfl⟩ := List.mem_map.mp isDeletion
      rfl

theorem isMutation_of_mem_changes {wanted : Subscription} {kind : Shape} {hooks : List Webhook}
    {call : Call} (member : call ∈ changes wanted kind hooks) : call.isMutation = true := by
  have target := target?_of_mem_changes member
  cases call with
  | supportedEvents => exact absurd target.symm (Option.some_ne_none _)
  | list repository filter => exact absurd target.symm (Option.some_ne_none _)
  | create repository name events url => rfl
  | update repository id name events url => rfl
  | delete repository id => rfl

theorem filter_isMutation_probes (wanted : Subscription) :
    (probes wanted).filter Call.isMutation = [] := by
  unfold probes
  split <;> rfl

theorem isMutation_of_mem_probes {wanted : Subscription} {call : Call}
    (member : call ∈ probes wanted) : call.isMutation = false :=
  Bool.eq_false_iff.mpr (List.filter_eq_nil_iff.mp (filter_isMutation_probes wanted) call member)

/-- The changes are the mutations of a reconciliation. -/
theorem filter_isMutation_calls (wanted : Subscription) (kind : Shape) (hooks : List Webhook) :
    (probes wanted ++ [Call.list wanted.repository Event.all] ++ changes wanted kind hooks).filter
        Call.isMutation = changes wanted kind hooks := by
  have allChanges : (changes wanted kind hooks).filter Call.isMutation =
      changes wanted kind hooks :=
    List.filter_eq_self.mpr fun _ => isMutation_of_mem_changes
  rw [List.filter_append, List.filter_append, filter_isMutation_probes, allChanges]
  rfl

theorem mem_calls_iff {wanted : Subscription} {kind : Shape} {hooks : List Webhook} {call : Call}
    (mutates : call.isMutation = true) :
    call ∈ probes wanted ++ [Call.list wanted.repository Event.all] ++ changes wanted kind hooks ↔
      call ∈ changes wanted kind hooks := by
  have among := congrArg (call ∈ ·) (filter_isMutation_calls wanted kind hooks)
  simp only [List.mem_filter, mutates, and_true] at among
  exact Iff.of_eq among

/-- The store behind all changes of a reconciliation. -/
def completed (store : Store) (wanted : Subscription) (kind : Shape) : Store :=
  store.performAll (changes wanted kind (store.webhooks wanted.repository))

/-- There is an id for a webhook that the reconciliation has to create. -/
def HasRoom (store : Store) (wanted : Subscription) (kind : Shape) : Prop :=
  ∀ call ∈ changes wanted kind (store.webhooks wanted.repository), store.HasRoomFor call

section Step

variable {store : Store} {wanted : Subscription} {kind : Shape} {call : Call} {rest : List Call}

/-- Behind one change, the remaining ones are due, and the end is the same. -/
theorem step_of_changes_eq_cons (numbered : store.Numbered wanted.repository)
    (next : changes wanted kind (store.webhooks wanted.repository) = call :: rest) :
    changes wanted kind ((store.perform call).2.webhooks wanted.repository) = rest ∧
      outcome wanted kind ((store.perform call).2.webhooks wanted.repository)
          (store.perform call).2.nextId =
        outcome wanted kind (store.webhooks wanted.repository) store.nextId := by
  obtain ⟨leftover, rfl, due⟩ := due_of_changes_eq_cons next
  have whole := due.kept numbered.distinct
  exact ⟨whole.changes_eq, whole.outcome_eq _⟩

theorem HasRoom.step (numbered : store.Numbered wanted.repository)
    (next : changes wanted kind (store.webhooks wanted.repository) = call :: rest) :
    HasRoom (store.perform call).2 wanted kind := by
  obtain ⟨leftover, rfl, _⟩ := due_of_changes_eq_cons next
  intro later member creates
  rw [(step_of_changes_eq_cons numbered next).1] at member
  exact absurd creates (operation_ne_create_of_mem_deletions member)

end Step

/-- Behind any number of changes, the remaining ones are due, and the end is the same. -/
theorem steps_of_changes_eq_append {store : Store} {wanted : Subscription} {kind : Shape}
    {made rest : List Call} (numbered : store.Numbered wanted.repository)
    (room : HasRoom store wanted kind)
    (planned : changes wanted kind (store.webhooks wanted.repository) = made ++ rest) :
    changes wanted kind ((store.performAll made).webhooks wanted.repository) = rest ∧
      outcome wanted kind ((store.performAll made).webhooks wanted.repository)
          (store.performAll made).nextId =
        outcome wanted kind (store.webhooks wanted.repository) store.nextId ∧
      (store.performAll made).Numbered wanted.repository ∧
      HasRoom (store.performAll made) wanted kind := by
  induction made generalizing store with
  | nil => exact ⟨planned, rfl, numbered, room⟩
  | cons call made inductionHypothesis =>
      obtain ⟨remaining, sameEnd⟩ := step_of_changes_eq_cons numbered planned
      have roomForCall : store.HasRoomFor call := room call (planned ▸ List.mem_cons_self)
      have onward := inductionHypothesis (numbered.perform roomForCall)
        (HasRoom.step numbered planned) remaining
      rw [sameEnd] at onward
      exact onward

/-- Behind a change, the way to the end is the remaining changes. -/
theorem Due.completed_eq {store : Store} {wanted : Subscription} {kind : Shape} {call : Call}
    {leftover : List Webhook} (distinct : ((store.webhooks wanted.repository).map Webhook.id).Nodup)
    (due : Due wanted kind (store.webhooks wanted.repository) call leftover)
    (planned : changes wanted kind (store.webhooks wanted.repository) =
      call :: deletions wanted.repository leftover) :
    completed (store.perform call).2 wanted kind = completed store wanted kind := by
  rw [completed, completed, planned, (due.kept distinct).changes_eq, Store.performAll_cons]

/-- The settled course makes its changes, and ends with the outcome. -/
theorem run_settle (store : Store) {wanted : Subscription} {kind : Shape} (calm : store.Calm)
    (distinct : ((store.webhooks wanted.repository).map Webhook.id).Nodup) :
    store.run (settle wanted kind (store.webhooks wanted.repository)) =
      (.ok (some (outcome wanted kind (store.webhooks wanted.repository) store.nextId)),
        { completed store wanted kind with
          journal :=
            store.journal ++ changes wanted kind (store.webhooks wanted.repository) }) := by
  suffices runs : store.Calm → ∀ journal,
      ({ store with journal } : Store).run (settle wanted kind (store.webhooks wanted.repository)) =
        (.ok (some (outcome wanted kind (store.webhooks wanted.repository) store.nextId)),
          { completed store wanted kind with
            journal := journal ++ changes wanted kind (store.webhooks wanted.repository) }) from
    runs calm store.journal
  refine changes_induction wanted kind ?settled ?change store distinct
  case settled =>
    intro store kept whole _ _ journal
    rw [whole.settle_eq, whole.outcome_eq, whole.changes_eq, completed, whole.changes_eq, deletions,
      List.map_nil, List.append_nil]
    rfl
  case change =>
    intro store call leftover distinct planned due runsOn calm journal
    obtain ⟨next, reply, begins, answered, continues⟩ := due.settle_eq distinct
    have whole := due.kept distinct
    have effect := Store.perform_withJournal store journal call
    have passes : ({ store with journal } : Store).failing call.operation = false := calm _
    have answeredThere : (({ store with journal } : Store).perform call).1 = .ok reply := by
      rw [effect, answered]
    have onward := runsOn (calm.perform call) (journal ++ [call])
    rw [whole.outcome_eq, whole.changes_eq, due.completed_eq distinct planned, ← continues,
      List.append_assoc] at onward
    rw [begins, Store.run_require_of_ok passes answeredThere, effect, planned]
    exact onward

/-- With its own listing, a reconciliation takes the settled course on all webhooks of the
repository. -/
theorem run_apply (store : Store) (wanted : Subscription) (kind : Shape)
    (passes : store.failing .list = false) :
    store.run (apply wanted kind.events) =
      Store.run { store with journal := store.journal ++ [.list wanted.repository Event.all] }
        (settle wanted kind (store.webhooks wanted.repository)) := by
  rw [apply, listOwned, Dialogue.require_andThen, Store.run_require_of_ok passes rfl,
    Dialogue.done_ok_andThen, applyTo_eq_settle, settle_listed]
  rfl

section Whole

variable {store : Store} {wanted : Subscription} (calm : store.Calm)

include calm

/-- Where no events are wanted, nothing happens. -/
theorem run_reconcile_of_empty (nothing : wantedEvents store.capabilities wanted = .empty) :
    store.run (reconcile wanted) =
      (.ok none, { store with journal := store.journal ++ probes wanted }) := by
  rw [reconcile, Store.run_andThen, run_resolveEvents calm, nothing]
  rfl

/-- Where the events of a shape are wanted, the settled course is taken behind the questions. -/
theorem run_reconcile_eq_settle {kind : Shape}
    (asked : wantedEvents store.capabilities wanted = kind.events) :
    store.run (reconcile wanted) =
      Store.run { store with journal := store.journal ++
          (probes wanted ++ [.list wanted.repository Event.all]) }
        (settle wanted kind (store.webhooks wanted.repository)) := by
  have listed := run_apply { store with journal := store.journal ++ probes wanted }
    wanted kind (calm .list)
  rw [reconcile, Store.run_andThen, run_resolveEvents calm, asked]
  simp only [kind.events_isEmpty, Bool.false_eq_true, if_false]
  rw [listed]
  simp only [List.append_assoc]

/-- Where the events of a shape are wanted and ids are distinct, the reconciliation lists the
webhooks, makes its changes and ends with the outcome. -/
theorem run_reconcile_of_distinct {kind : Shape}
    (distinct : ((store.webhooks wanted.repository).map Webhook.id).Nodup)
    (asked : wantedEvents store.capabilities wanted = kind.events) :
    store.run (reconcile wanted) =
      (.ok (some (outcome wanted kind (store.webhooks wanted.repository) store.nextId)),
        { completed store wanted kind with
          journal := store.journal ++ (probes wanted ++ [.list wanted.repository Event.all] ++
            changes wanted kind (store.webhooks wanted.repository)) }) := by
  have settled := @run_settle { store with journal := store.journal ++
    (probes wanted ++ [.list wanted.repository Event.all]) } wanted kind calm distinct
  rw [run_reconcile_eq_settle calm asked, settled]
  simp only [completed, Store.performAll_withJournal, List.append_assoc]

end Whole

/-! ## The end -/

section End

variable {store : Store} {wanted : Subscription} {kind : Shape}

theorem completed_eq_self
    (nothing : changes wanted kind (store.webhooks wanted.repository) = []) :
    completed store wanted kind = store := by
  rw [completed, nothing, Store.performAll_nil]

theorem capabilities_completed (store : Store) (wanted : Subscription) (kind : Shape) :
    (completed store wanted kind).capabilities = store.capabilities :=
  Store.capabilities_performAll store _

theorem calm_completed (calm : store.Calm) : (completed store wanted kind).Calm :=
  calm.performAll _

/-- Behind all changes, the outcome is kept and nothing is left over. -/
theorem kept_completed (numbered : store.Numbered wanted.repository)
    (room : HasRoom store wanted kind) :
    Kept wanted kind ((completed store wanted kind).webhooks wanted.repository)
      (outcome wanted kind (store.webhooks wanted.repository) store.nextId) [] := by
  obtain ⟨nothing, sameEnd, _⟩ :=
    steps_of_changes_eq_append numbered room (List.append_nil _).symm
  obtain ⟨kept, whole⟩ := changes_eq_nil_iff.mp nothing
  rw [← sameEnd, whole.outcome_eq]
  exact whole

section Distinct

variable (distinct : ((store.webhooks wanted.repository).map Webhook.id).Nodup)

include distinct

/-- All changes together leave alone what one of them leaves alone. -/
theorem outside_completed :
    outside wanted kind ((completed store wanted kind).webhooks wanted.repository) =
      outside wanted kind (store.webhooks wanted.repository) := by
  refine changes_induction wanted kind ?settled ?change store distinct
  case settled =>
    intro store kept whole _
    rw [completed_eq_self whole.changes_eq]
  case change =>
    intro store call leftover distinct planned due same
    rw [← due.completed_eq distinct planned, same, due.outside_eq distinct]

/-- Behind all changes, none is due. -/
theorem changes_completed :
    changes wanted kind ((completed store wanted kind).webhooks wanted.repository) = [] := by
  refine changes_induction wanted kind ?settled ?change store distinct
  case settled =>
    intro store kept whole _
    rw [completed_eq_self whole.changes_eq, whole.changes_eq, deletions, List.map_nil]
  case change =>
    intro store call leftover distinct planned due nothing
    rwa [due.completed_eq distinct planned] at nothing

/-- In the end there are the outcome and what was left alone, as often as before. -/
theorem perm_completed :
    ((completed store wanted kind).webhooks wanted.repository).Perm
      (outcome wanted kind (store.webhooks wanted.repository) store.nextId ::
        outside wanted kind (store.webhooks wanted.repository)) := by
  rw [← outside_completed distinct]
  refine changes_induction wanted kind ?settled ?change store distinct
  case settled =>
    intro store kept whole alone
    rw [completed_eq_self whole.changes_eq, whole.outcome_eq]
    refine (gathered_append_outside wanted kind _).symm.trans ?_
    rw [alone]
    exact List.Perm.refl _
  case change =>
    intro store call leftover distinct planned due perm
    rwa [due.completed_eq distinct planned, (due.kept distinct).outcome_eq] at perm

/-- In the end there are the outcome and what was left alone. -/
theorem mem_completed {hook : Webhook} :
    hook ∈ (completed store wanted kind).webhooks wanted.repository ↔
      hook = outcome wanted kind (store.webhooks wanted.repository) store.nextId ∨
        Untouched wanted kind (store.webhooks wanted.repository) hook := by
  rw [(perm_completed distinct).mem_iff, List.mem_cons, mem_outside]

end Distinct

theorem numbered_completed {repository : Repository}
    (numbered : store.Numbered repository) (room : HasRoom store wanted kind) :
    (completed store wanted kind).Numbered repository := by
  unfold completed
  cases planned : changes wanted kind (store.webhooks wanted.repository) with
  | nil => exact numbered
  | cons call rest =>
      obtain ⟨leftover, rfl, _⟩ := due_of_changes_eq_cons planned
      have roomForCall : store.HasRoomFor call := room call (planned ▸ List.mem_cons_self)
      rw [Store.performAll_cons]
      exact (numbered.perform roomForCall).performAll fun _ => operation_ne_create_of_mem_deletions

/-- The webhooks of other repositories stay as they are. -/
theorem webhooks_completed {repository : Repository}
    (elsewhere : repository ≠ wanted.repository) :
    (completed store wanted kind).webhooks repository = store.webhooks repository := by
  apply Store.webhooks_performAll_of_target_ne
  intro call member same
  rw [target?_of_mem_changes member] at same
  exact elsewhere (Option.some.inj same).symm

/-- A reconciliation takes at most one id. -/
theorem nextId_completed (room : HasRoom store wanted kind) :
    (completed store wanted kind).nextId.toInt ≤
      store.nextId.toInt + 1 := by
  unfold completed
  cases planned : changes wanted kind (store.webhooks wanted.repository) with
  | nil => exact Int.le_add_one (Int.le_refl _)
  | cons call rest =>
      obtain ⟨leftover, rfl, _⟩ := due_of_changes_eq_cons planned
      rw [Store.performAll_cons,
        Store.nextId_performAll fun _ => operation_ne_create_of_mem_deletions]
      by_cases creates : call.operation = .create
      · have below := room call (planned ▸ List.mem_cons_self) creates
        have taken : (store.perform call).2.nextId.toInt = store.nextId.toInt + 1 := by
          rw [Store.nextId_perform_of_create store creates, Store.toInt_add_one below]
        exact Int.le_of_eq taken
      · rw [Store.nextId_perform_of_ne_create store creates]
        exact Int.le_add_one (Int.le_refl _)

end End

end WebhookSync.Reconcile
