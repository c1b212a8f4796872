import WebhookSync.Proofs.Reconcile.Run

/-!
# The course of a reconciliation

A reconciliation that is led call by call, and not in one go, first asks what it has to know.  When
it has listed the webhooks it creates one, or it keeps one: it rewrites the one to keep, if that is
not up to date, and deletes others.  As long as nothing interferes, it is at every moment where it
would be if it listed the webhooks now (`Course.answered`).
-/

namespace WebhookSync.Reconcile

open Gateway (Call Session Store)

/-! ## What is asked first -/

/-- The reconciliation does not know the webhooks yet: it has to ask what the server supports, or
to list them.  The number is that of the calls up to the listing. -/
inductive Opening (wanted : Subscription) (kind : Shape) (capabilities : Option EventSet) :
    Nat → Session (Except Failure (Option Webhook)) → Prop where
  | probing {next : Gateway.Answer .supportedEvents → Session (Except Failure (Option Webhook))}
      (resolves : ∀ store : Store, store.capabilities = capabilities →
        next (store.perform .supportedEvents).1 = apply wanted kind.events) :
      Opening wanted kind capabilities 2 (.ask .supportedEvents next)
  | listing : Opening wanted kind capabilities 1 (apply wanted kind.events)

/-- Behind the listing the settled course is taken. -/
theorem apply_eq_require (wanted : Subscription) (kind : Shape) :
    apply wanted kind.events =
      .require (.list wanted.repository Event.all) fun hooks => settle wanted kind hooks := by
  rw [apply, listOwned, Dialogue.require_andThen]
  congr 1
  funext hooks
  rw [Dialogue.done_ok_andThen, applyTo_eq_settle]

theorem opening_reconcile {wanted : Subscription} {kind : Shape} {capabilities : Option EventSet}
    (asked : wantedEvents capabilities wanted = kind.events) :
    ∃ questions ≤ 2, Opening wanted kind capabilities questions (reconcile wanted) := by
  have goesOn : (if kind.events.isEmpty then .done (.ok none) else apply wanted kind.events) =
      apply wanted kind.events := by
    rw [kind.events_isEmpty, if_neg Bool.false_ne_true]
  unfold reconcile resolveEvents
  unfold wantedEvents at asked
  cases isMirror : wanted.mirror with
  | false =>
      simp only [isMirror, Bool.false_eq_true, if_false] at asked ⊢
      rw [asked, Dialogue.done_ok_andThen, goesOn]
      exact ⟨1, by decide, .listing⟩
  | true =>
      simp only [isMirror, if_true] at asked ⊢
      refine ⟨2, by decide, .probing fun store same => ?_⟩
      rw [← goesOn, ← asked, ← same]
      simp only [Store.perform]
      cases store.capabilities <;> rfl

section Opening

variable {wanted : Subscription} {kind : Shape} {capabilities : Option EventSet} {questions : Nat}

theorem Opening.asks {session : Session (Except Failure (Option Webhook))}
    (opening : Opening wanted kind capabilities questions session) :
    ∃ call next, session = .ask call next := by
  cases opening with
  | probing resolves => exact ⟨_, _, rfl⟩
  | listing =>
      rw [apply_eq_require]
      exact ⟨_, _, rfl⟩

/-- What the server supports leads on to the listing, and the listing to the settled course. -/
theorem Opening.answered {store : Store} {call : Call}
    {next : Gateway.Answer call → Session (Except Failure (Option Webhook))}
    (opening : Opening wanted kind store.capabilities questions (.ask call next)) :
    questions = 2 ∧ call = .supportedEvents ∧
        next (store.perform call).1 = apply wanted kind.events ∨
      questions = 1 ∧ call = .list wanted.repository Event.all ∧
        next (store.perform call).1 =
          settle wanted kind (store.webhooks wanted.repository) := by
  generalize asked : Dialogue.ask call next = session at opening
  cases opening with
  | probing resolves =>
      injection asked with sameCall sameNext
      subst sameCall
      obtain rfl := eq_of_heq sameNext
      exact .inl ⟨rfl, rfl, resolves store rfl⟩
  | listing =>
      rw [apply_eq_require, Dialogue.require] at asked
      injection asked with sameCall sameNext
      subst sameCall
      obtain rfl := eq_of_heq sameNext
      exact .inr ⟨rfl, rfl, settle_listed wanted kind (store.webhooks wanted.repository)⟩

end Opening

/-! ## Namesakes -/

section SameIdentity

variable {first second : Subscription} (sameRepository : first.repository = second.repository)
  (sameName : first.name = second.name) (sameUrl : first.callbackUrl = second.callbackUrl)

include sameRepository sameName sameUrl

/-- Which kinds of events a subscription is for does not count once the wanted events are known. -/
theorem apply_congr (events : EventSet) : apply first events = apply second events := by
  cases first
  cases second
  cases sameRepository
  cases sameName
  cases sameUrl
  rfl

theorem Opening.congr {kind : Shape} {capabilities : Option EventSet} {questions : Nat}
    {session : Session (Except Failure (Option Webhook))}
    (opening : Opening first kind capabilities questions session) :
    Opening second kind capabilities questions session := by
  have sameApply := apply_congr sameRepository sameName sameUrl kind.events
  cases opening with
  | probing resolves =>
      apply Opening.probing
      intro store same
      rw [resolves store same, sameApply]
  | listing =>
      rw [sameApply]
      exact .listing

end SameIdentity

/-! ## What is done then -/

/-- Create a webhook, and end with it. -/
def creation (wanted : Subscription) (kind : Shape) : Session (Except Failure (Option Webhook)) :=
  .require (.create wanted.repository wanted.name kind.events wanted.callbackUrl)
    fun created => .done (.ok (some created))

/-- Rewrite the webhook of an id, and then delete others. -/
def rewriting (wanted : Subscription) (shape : Shape) (id : Int64) (others : List Webhook) :
    Session (Except Failure (Option Webhook)) :=
  .require (.update wanted.repository id wanted.name shape.events wanted.callbackUrl)
    fun updated => deleteAll wanted.repository (some updated) others

theorem settle_of_none {wanted : Subscription} {kind : Shape} {hooks : List Webhook}
    (nothing : anchor? wanted (choose wanted kind hooks) hooks = none) :
    settle wanted kind hooks = creation wanted kind := by
  rw [settle, nothing]
  rfl

theorem settle_of_fit {wanted : Subscription} {kind : Shape} {hooks : List Webhook}
    {anchor : Webhook} (found : anchor? wanted (choose wanted kind hooks) hooks = some anchor)
    (fit : fits wanted (choose wanted kind hooks) anchor = true) :
    settle wanted kind hooks =
      deleteAll wanted.repository (some anchor)
        (others wanted (choose wanted kind hooks) anchor hooks) := by
  rw [settle, found]
  simp only [keep, fit, if_true]

/-- What a reconciliation keeps of the listed webhooks is what it keeps of all. -/
theorem anchor?_listed (wanted : Subscription) (kind : Shape) (hooks : List Webhook) :
    let listed := hooks.filter fun hook => Event.all.any hook.subscribesTo
    anchor? wanted (choose wanted kind listed) listed =
      anchor? wanted (choose wanted kind hooks) hooks := by
  intro listed
  rw [choose_listed, anchor?, anchor?, gathered_listed]

/-- A settled course that asks makes the first change that is due, and goes on as if the webhooks
were listed anew. -/
theorem settle_answered {store : Store} {wanted : Subscription} {kind : Shape} {call : Call}
    {next : Gateway.Answer call → Session (Except Failure (Option Webhook))}
    (distinct : ((store.webhooks wanted.repository).map Webhook.id).Nodup)
    (asks : settle wanted kind (store.webhooks wanted.repository) = .ask call next) :
    ∃ leftover, changes wanted kind (store.webhooks wanted.repository) =
        call :: deletions wanted.repository leftover ∧
      next (store.perform call).1 =
        settle wanted kind ((store.perform call).2.webhooks wanted.repository) ∧
      Due wanted kind (store.webhooks wanted.repository) call leftover := by
  cases planned : changes wanted kind (store.webhooks wanted.repository) with
  | nil =>
      obtain ⟨kept, whole⟩ := changes_eq_nil_iff.mp planned
      rw [whole.settle_eq] at asks
      cases asks
  | cons first rest =>
      obtain ⟨leftover, rfl, due⟩ := due_of_changes_eq_cons planned
      obtain ⟨onward, reply, begins, answered, continues⟩ := due.settle_eq distinct
      rw [begins, Dialogue.require] at asks
      injection asks with sameCall sameNext
      subst sameCall
      obtain rfl := eq_of_heq sameNext
      refine ⟨leftover, rfl, ?_, due⟩
      rw [answered]
      exact continues

/-- A settled course that asks nothing has nothing to change. -/
theorem settle_ended {wanted : Subscription} {kind : Shape} {hooks : List Webhook}
    {result : Except Failure (Option Webhook)}
    (ended : settle wanted kind hooks = .done result) :
    ∃ kept, Kept wanted kind hooks kept [] ∧ result = .ok (some kept) := by
  cases planned : changes wanted kind hooks with
  | nil =>
      obtain ⟨kept, whole⟩ := changes_eq_nil_iff.mp planned
      rw [whole.settle_eq] at ended
      exact ⟨kept, whole, (Dialogue.done.inj ended).symm⟩
  | cons call rest =>
      obtain ⟨leftover, _, due⟩ := due_of_changes_eq_cons planned
      cases due with
      | create nothing =>
          rw [settle_of_none nothing] at ended
          cases ended
      | update found unfit =>
          rw [settle_of_unfit found unfit] at ended
          cases ended
      | delete whole =>
          rw [whole.settle_eq] at ended
          cases ended

/-! ## The whole way -/

/-- A reconciliation on its way where these are the webhooks of the repository, with the number of
calls that it still makes: it has not listed the webhooks yet, or it is where it would be if it
listed them now. -/
inductive Course (wanted : Subscription) (kind : Shape) (capabilities : Option EventSet)
    (hooks : List Webhook) : Nat → Session (Except Failure (Option Webhook)) → Prop where
  | opening {questions : Nat} {session : Session (Except Failure (Option Webhook))}
      (opening : Opening wanted kind capabilities questions session) :
      Course wanted kind capabilities hooks (questions + (changes wanted kind hooks).length) session
  | settling :
      Course wanted kind capabilities hooks (changes wanted kind hooks).length
        (settle wanted kind hooks)

section Course

variable {wanted : Subscription} {kind : Shape} {left : Nat}

/-- With an answer, a reconciliation is one call further: the call has left the webhooks alone, or
it is the first change that was due. -/
theorem Course.answered {store : Store} {call : Call}
    {next : Gateway.Answer call → Session (Except Failure (Option Webhook))}
    (distinct : ((store.webhooks wanted.repository).map Webhook.id).Nodup)
    (course : Course wanted kind store.capabilities (store.webhooks wanted.repository) left
      (.ask call next)) :
    ∃ rest, left = rest + 1 ∧
      Course wanted kind store.capabilities ((store.perform call).2.webhooks wanted.repository) rest
        (next (store.perform call).1) ∧
      ((store.perform call).2 = store ∨
        ∃ leftover, Due wanted kind (store.webhooks wanted.repository) call leftover) := by
  generalize asked : Dialogue.ask call next = session at course
  cases course with
  | @opening questions _ opening =>
      rw [← asked] at opening
      rcases opening.answered with ⟨rfl, rfl, listing⟩ | ⟨rfl, rfl, settles⟩
      · have unchanged : (store.perform .supportedEvents).2 = store :=
          Store.perform_of_not_isMutation store rfl
        refine ⟨_, Nat.add_right_comm 1 1 _, ?_, .inl unchanged⟩
        rw [unchanged, listing]
        exact .opening .listing
      · refine ⟨_, Nat.add_comm 1 _, ?_, .inl rfl⟩
        rw [settles]
        exact .settling
  | settling =>
      obtain ⟨leftover, planned, continues, due⟩ := settle_answered distinct asked.symm
      rw [planned, List.length_cons, ← (due.kept distinct).changes_eq]
      refine ⟨_, rfl, ?_, .inr ⟨leftover, due⟩⟩
      rw [continues]
      exact .settling

/-- A reconciliation that has ended has nothing left to change. -/
theorem Course.ended {capabilities : Option EventSet} {hooks : List Webhook}
    {result : Except Failure (Option Webhook)}
    (course : Course wanted kind capabilities hooks left (.done result)) :
    left = 0 ∧ ∃ kept, Kept wanted kind hooks kept [] ∧ result = .ok (some kept) := by
  generalize isDone : Dialogue.done result = session at course
  cases course with
  | opening opening =>
      obtain ⟨call, next, asks⟩ := opening.asks
      rw [asks] at isDone
      cases isDone
  | settling =>
      obtain ⟨kept, whole, same⟩ := settle_ended isDone.symm
      exact ⟨List.length_eq_zero_iff.mpr whole.changes_eq, kept, whole, same⟩

/-- A reconciliation that makes no more calls has ended. -/
theorem Course.done_of_eq_zero {capabilities : Option EventSet} {hooks : List Webhook}
    {session : Session (Except Failure (Option Webhook))}
    (course : Course wanted kind capabilities hooks left session) (nothing : left = 0) :
    ∃ result, session = .done result := by
  cases course with
  | opening opening => cases opening <;> omega
  | settling =>
      obtain ⟨kept, whole⟩ := changes_eq_nil_iff.mp (List.length_eq_zero_iff.mp nothing)
      rw [whole.settle_eq]
      exact ⟨_, rfl⟩

/-- A reconciliation changes each listed webhook at most once, and creates at most one. -/
theorem length_changes_le (wanted : Subscription) (kind : Shape) (hooks : List Webhook) :
    (changes wanted kind hooks).length ≤ hooks.length + 1 := by
  unfold changes
  split
  · simp
  · rename_i anchor _
    have fewer : (others wanted (choose wanted kind hooks) anchor hooks).length ≤ hooks.length :=
      (List.filter_sublist.trans (gathered_sublist _ _ _)).length_le
    simp only [List.length_append, deletions, List.length_map]
    split
    · simp only [List.length_nil]
      omega
    · simp only [List.length_singleton]
      omega

end Course

end WebhookSync.Reconcile
