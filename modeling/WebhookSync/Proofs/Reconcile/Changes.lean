import WebhookSync.Proofs.Dialogue
import WebhookSync.Proofs.Reconcile.Shape
import WebhookSync.Reconcile.Basic

/-!
# The changes of a reconciliation

Once the webhooks are listed, the rest of a reconciliation is settled: which shape it strives for,
which webhook it keeps, and which calls it makes in which order.  Here these are functions of the
listed webhooks, and what the reconciliation does is shown to be to make just these calls
(`applyTo_eq_settle`).  Buckets, plans and branch outcomes do not occur any more behind this point.
-/

namespace WebhookSync

namespace Reconcile

open Gateway (Session Call)

/-! ## Shape, anchor and others -/

/-- The own webhooks of a list that a shape gathers. -/
def gathered (wanted : Subscription) (shape : Shape) (hooks : List Webhook) : List Webhook :=
  (owned wanted hooks).filter shape.gathers

/-- The shape to strive for when a shape is wanted: that one if some own webhook has it, and else
the broadest. -/
def choose (wanted : Subscription) (kind : Shape) (hooks : List Webhook) : Shape :=
  if (gathered wanted kind hooks).isEmpty then kind.broadest else kind

/-- Whether a webhook is what a subscription asks of a webhook of the shape. -/
def fits (wanted : Subscription) (shape : Shape) (hook : Webhook) : Bool :=
  hook.isUpToDate wanted.name wanted.callbackUrl shape.events

/-- The webhook to keep: of those gathered the first that fits, or else the first. -/
def anchor? (wanted : Subscription) (shape : Shape) (hooks : List Webhook) : Option Webhook :=
  ((gathered wanted shape hooks).find? (fits wanted shape)).or (gathered wanted shape hooks).head?

/-- The gathered webhooks besides the one that is kept. -/
def others (wanted : Subscription) (shape : Shape) (anchor : Webhook) (hooks : List Webhook) :
    List Webhook :=
  (gathered wanted shape hooks).filter fun hook => hook.id != anchor.id

theorem mem_gathered {wanted : Subscription} {shape : Shape} {hooks : List Webhook}
    {hook : Webhook} :
    hook ∈ gathered wanted shape hooks ↔
      hook ∈ hooks ∧ hook.isOwnedBy wanted = true ∧ shape.gathers hook = true := by
  simp only [gathered, owned, List.mem_filter, and_assoc]

theorem mem_others {wanted : Subscription} {shape : Shape} {anchor : Webhook}
    {hooks : List Webhook} {hook : Webhook} :
    hook ∈ others wanted shape anchor hooks ↔
      hook ∈ gathered wanted shape hooks ∧ hook.id ≠ anchor.id := by
  simp [others]

theorem gathered_eq_filter (wanted : Subscription) (shape : Shape) (hooks : List Webhook) :
    gathered wanted shape hooks =
      hooks.filter fun hook => hook.isOwnedBy wanted && shape.gathers hook := by
  simp only [gathered, owned, List.filter_filter, Bool.and_comm]

theorem gathered_sublist (wanted : Subscription) (shape : Shape) (hooks : List Webhook) :
    (gathered wanted shape hooks).Sublist hooks := by
  rw [gathered_eq_filter]
  exact List.filter_sublist

/-- What listens to no managed event is gathered by no shape. -/
theorem gathered_listed (wanted : Subscription) (shape : Shape) (hooks : List Webhook) :
    gathered wanted shape (hooks.filter fun hook => Event.all.any hook.subscribesTo) =
      gathered wanted shape hooks := by
  simp only [gathered_eq_filter, List.filter_filter]
  apply List.filter_congr
  intro hook _
  cases gathers : shape.gathers hook with
  | false => simp
  | true =>
      obtain ⟨event, subscribed⟩ := Shape.exists_subscribesTo_of_gathers gathers
      have listed : Event.all.any hook.subscribesTo = true :=
        List.any_eq_true.mpr ⟨event, event.mem_all, subscribed⟩
      simp [listed]

theorem choose_eq_or (wanted : Subscription) (kind : Shape) (hooks : List Webhook) :
    choose wanted kind hooks = kind ∨ choose wanted kind hooks = kind.broadest := by
  unfold choose
  split
  · exact .inr rfl
  · exact .inl rfl

/-- The chosen shape has all wanted events. -/
theorem le_choose (wanted : Subscription) (kind : Shape) (hooks : List Webhook) :
    kind ≤ choose wanted kind hooks :=
  Shape.le_iff.mpr (choose_eq_or wanted kind hooks)

/-- The chosen shape gathers something as soon as the broadest one does. -/
theorem gathered_choose_eq_nil_iff {wanted : Subscription} {kind : Shape} {hooks : List Webhook} :
    gathered wanted (choose wanted kind hooks) hooks = [] ↔
      gathered wanted kind.broadest hooks = [] := by
  unfold choose
  split
  · rfl
  · rename_i something
    constructor
    · intro nothing
      simp [nothing] at something
    · intro nothing
      refine absurd ?_ something
      rw [List.isEmpty_iff, List.eq_nil_iff_forall_not_mem]
      intro hook member
      obtain ⟨listed, own, gathers⟩ := mem_gathered.mp member
      have wider := mem_gathered.mpr
        ⟨listed, own, Shape.gathers_mono kind.le_broadest gathers⟩
      rw [nothing] at wider
      exact List.not_mem_nil wider

theorem anchor?_eq_none_iff {wanted : Subscription} {shape : Shape} {hooks : List Webhook} :
    anchor? wanted shape hooks = none ↔ gathered wanted shape hooks = [] := by
  constructor
  · intro nothing
    exact List.head?_eq_none_iff.mp (Option.or_eq_none_iff.mp nothing).2
  · intro nothing
    simp [anchor?, nothing]

/-- The anchor is one of the gathered webhooks. -/
theorem anchor_mem {wanted : Subscription} {shape : Shape} {hooks : List Webhook}
    {anchor : Webhook} (found : anchor? wanted shape hooks = some anchor) :
    anchor ∈ gathered wanted shape hooks := by
  rcases Option.or_eq_some_iff.mp found with fitting | ⟨_, first⟩
  · exact List.mem_of_find?_eq_some fitting
  · exact List.mem_of_mem_head? first

/-! ## The settled course -/

/-- Bring the anchor up to date if it does not fit, and delete the others. -/
def keep (wanted : Subscription) (shape : Shape) (anchor : Webhook) (hooks : List Webhook) :
    Session (Except Failure (Option Webhook)) :=
  if fits wanted shape anchor then
    deleteAll wanted.repository (some anchor) (others wanted shape anchor hooks)
  else
    .require (.update wanted.repository anchor.id wanted.name shape.events wanted.callbackUrl)
      fun updated =>
        deleteAll wanted.repository (some updated) (others wanted shape anchor hooks)

/-- Keep the anchor, or create a webhook where there is none to keep. -/
def settle (wanted : Subscription) (kind : Shape) (hooks : List Webhook) :
    Session (Except Failure (Option Webhook)) :=
  match anchor? wanted (choose wanted kind hooks) hooks with
  | none =>
      .require (.create wanted.repository wanted.name kind.events wanted.callbackUrl)
        fun created => .done (.ok (some created))
  | some anchor => keep wanted (choose wanted kind hooks) anchor hooks

theorem settle_of_unfit {wanted : Subscription} {kind : Shape} {hooks : List Webhook}
    {anchor : Webhook} (found : anchor? wanted (choose wanted kind hooks) hooks = some anchor)
    (unfit : fits wanted (choose wanted kind hooks) anchor = false) :
    settle wanted kind hooks =
      .require
        (.update wanted.repository anchor.id wanted.name (choose wanted kind hooks).events
          wanted.callbackUrl)
        fun updated =>
          deleteAll wanted.repository (some updated)
            (others wanted (choose wanted kind hooks) anchor hooks) := by
  rw [settle, found]
  simp only [keep, unfit, Bool.false_eq_true, if_false]

/-- The calls that delete webhooks of a repository. -/
def deletions (repository : Repository) (hooks : List Webhook) : List Call :=
  hooks.map fun hook => .delete repository hook.id

/-- The calls of the settled course. -/
def changes (wanted : Subscription) (kind : Shape) (hooks : List Webhook) : List Call :=
  match anchor? wanted (choose wanted kind hooks) hooks with
  | none => [.create wanted.repository wanted.name kind.events wanted.callbackUrl]
  | some anchor =>
      let shape := choose wanted kind hooks
      (if fits wanted shape anchor then []
        else [.update wanted.repository anchor.id wanted.name shape.events wanted.callbackUrl]) ++
      deletions wanted.repository (others wanted shape anchor hooks)

theorem choose_listed (wanted : Subscription) (kind : Shape) (hooks : List Webhook) :
    choose wanted kind (hooks.filter fun hook => Event.all.any hook.subscribesTo) =
      choose wanted kind hooks := by
  rw [choose, choose, gathered_listed]

/-- The settled course depends on the listed webhooks alone. -/
theorem settle_listed (wanted : Subscription) (kind : Shape) (hooks : List Webhook) :
    settle wanted kind (hooks.filter fun hook => Event.all.any hook.subscribesTo) =
      settle wanted kind hooks := by
  rw [settle, settle, choose_listed, anchor?, anchor?, gathered_listed]
  congr 1
  funext anchor
  rw [keep, keep, others, others, gathered_listed]

theorem deleteAll_andThen {α β : Type} (repository : Repository) (result : α)
    (second : α → Session (Except Failure β)) (answer : β)
    (ends : second result = .done (.ok answer)) (hooks : List Webhook) :
    (deleteAll repository result hooks).andThen second = deleteAll repository answer hooks := by
  induction hooks with
  | nil => exact ends
  | cons hook rest ih =>
      rw [deleteAll, deleteAll, Dialogue.require_andThen]
      congr 1
      exact funext fun _ => ih

/-- What passes on a kept webhook can be left out behind a settled course. -/
theorem keep_andThen (wanted : Subscription) (shape : Shape) (anchor : Webhook)
    (hooks : List Webhook) {second : Option Webhook → Session (Except Failure (Option Webhook))}
    (passesOn : ∀ hook, second (some hook) = .done (.ok (some hook))) :
    (keep wanted shape anchor hooks).andThen second = keep wanted shape anchor hooks := by
  unfold keep
  split
  · exact deleteAll_andThen _ _ _ _ (passesOn anchor) _
  · rw [Dialogue.require_andThen]
    congr 1
    exact funext fun updated => deleteAll_andThen _ _ _ _ (passesOn updated) _

/-- Aligning what a shape gathers is keeping the anchor. -/
theorem align_eq_keep {wanted : Subscription} {shape : Shape} {hooks : List Webhook}
    {anchor : Webhook} (found : anchor? wanted shape hooks = some anchor) :
    align wanted (gathered wanted shape hooks) shape.events = keep wanted shape anchor hooks := by
  unfold align keep others
  unfold anchor? at found
  cases bucket : gathered wanted shape hooks with
  | nil => simp [bucket] at found
  | cons first rest =>
      rw [bucket] at found
      have isFits : (fun hook : Webhook =>
          hook.isUpToDate wanted.name wanted.callbackUrl shape.events) = fits wanted shape := rfl
      dsimp only
      rw [isFits]
      cases fitting : (first :: rest).find? (fits wanted shape) with
      | some hook =>
          have sameAnchor : hook = anchor := by simpa [fitting] using found
          subst sameAnchor
          rw [if_pos (List.find?_some fitting)]
      | none =>
          have sameAnchor : first = anchor := by simpa [fitting] using found
          subst sameAnchor
          rw [if_neg (List.find?_eq_none.mp fitting first List.mem_cons_self)]

/-! ## Agreement with buckets and plans -/

/-- A webhook has to be created just when the broadest shape of the wanted one gathers nothing. -/
theorem mustCreate_eq (wanted : Subscription) (kind : Shape) (hooks : List Webhook) :
    mustCreate kind.events (Buckets.classify (owned wanted hooks)) (owned wanted hooks) =
      (gathered wanted kind.broadest hooks).isEmpty := by
  have mirrorBucket : (Buckets.classify (owned wanted hooks)).mirrorSync =
      gathered wanted .mirror hooks := rfl
  have triggerBucket : (Buckets.classify (owned wanted hooks)).refOrPullRequest =
      gathered wanted .combined hooks := rfl
  have nothingOwn (shape : Shape) :
      ((owned wanted hooks).isEmpty || (gathered wanted shape hooks).isEmpty) =
        (gathered wanted shape hooks).isEmpty := by
    cases listed : owned wanted hooks with
    | nil => simp [gathered, listed]
    | cons first rest => rfl
  simp only [mustCreate, mirrorBucket, triggerBucket, Shape.any_isMirrorSync,
    Shape.any_isRefOrPullRequest]
  cases kind <;> simp [Shape.broadest, nothingOwn]

/-- The plan for triggers works on what the chosen shape gathers, be it of the webhooks at hand or
of later ones, towards the events of the shape. -/
theorem plan_eq_choose (wanted : Subscription) {kind : Shape} (isTrigger : kind ≠ .mirror)
    (hooks later : List Webhook) :
    let buckets := Buckets.classify (owned wanted hooks)
    let plan := TriggerPlan.choose (kind.events.any Event.isRefChange)
      (kind.events.any Event.isPullRequest) buckets
    plan.bucket (Buckets.classify (owned wanted later)) =
        gathered wanted (choose wanted kind hooks) later ∧
      plan.target = (choose wanted kind hooks).events := by
  intro buckets plan
  cases kind with
  | mirror => exact absurd rfl isTrigger
  | refOnly =>
      have refs : Shape.refOnly.events.any Event.isRefChange = true := by decide
      have pulls : Shape.refOnly.events.any Event.isPullRequest = false := by decide
      have narrow : buckets.refOnly = gathered wanted .refOnly hooks := rfl
      simp only [plan, refs, pulls, TriggerPlan.choose, choose, narrow]
      cases (gathered wanted .refOnly hooks).isEmpty <;> exact ⟨rfl, rfl⟩
  | pullRequestOnly =>
      have refs : Shape.pullRequestOnly.events.any Event.isRefChange = false := by decide
      have pulls : Shape.pullRequestOnly.events.any Event.isPullRequest = true := by decide
      have narrow : buckets.pullRequestOnly = gathered wanted .pullRequestOnly hooks := rfl
      simp only [plan, refs, pulls, TriggerPlan.choose, choose, narrow]
      cases (gathered wanted .pullRequestOnly hooks).isEmpty <;> exact ⟨rfl, rfl⟩
  | combined =>
      have refs : Shape.combined.events.any Event.isRefChange = true := by decide
      have pulls : Shape.combined.events.any Event.isPullRequest = true := by decide
      simp only [plan, refs, pulls, TriggerPlan.choose, choose]
      cases (gathered wanted .combined hooks).isEmpty <;> exact ⟨rfl, rfl⟩

/-- Bringing own webhooks in line takes the settled course. -/
theorem applyTo_eq_settle (wanted : Subscription) (kind : Shape) (hooks : List Webhook) :
    applyTo wanted kind.events (owned wanted hooks) = settle wanted kind hooks := by
  simp only [applyTo, settle, mustCreate_eq, Shape.any_isMirrorSync, Shape.any_isRefOrPullRequest]
  cases found : anchor? wanted (choose wanted kind hooks) hooks with
  | none =>
      have nothing := gathered_choose_eq_nil_iff.mp (anchor?_eq_none_iff.mp found)
      rw [nothing, if_pos List.isEmpty_nil]
  | some anchor =>
      have something : (gathered wanted kind.broadest hooks).isEmpty ≠ true := by
        intro nothing
        have bucket := gathered_choose_eq_nil_iff.mpr (List.isEmpty_iff.mp nothing)
        rw [anchor?_eq_none_iff.mpr bucket] at found
        exact absurd found.symm (Option.some_ne_none anchor)
      rw [if_neg something]
      by_cases isMirror : kind = .mirror
      · subst isMirror
        have chosen : choose wanted .mirror hooks = .mirror :=
          (choose_eq_or wanted .mirror hooks).elim id id
        rw [chosen] at found ⊢
        have aligned : align wanted (Buckets.classify (owned wanted hooks)).mirrorSync .mirrorSync =
            keep wanted .mirror anchor hooks := align_eq_keep found
        simp only [alignIf, aligned, decide_true, if_true, ne_eq, not_true, decide_false,
          Bool.false_eq_true, if_false, Dialogue.andThen_assoc, Dialogue.done_ok_andThen]
        apply keep_andThen
        intro hook
        simp [BranchOutcome.ofOption, BranchOutcome.combine]
      · obtain ⟨bucket, target⟩ := plan_eq_choose wanted isMirror hooks hooks
        simp only [alignIf, bucket, target, align_eq_keep found, isMirror, decide_false, ne_eq,
          not_false_eq_true, decide_true, if_true, Bool.false_eq_true, if_false,
          Dialogue.andThen_assoc, Dialogue.done_ok_andThen]
        apply keep_andThen
        intro hook
        rfl

end Reconcile

end WebhookSync
