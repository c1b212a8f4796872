import Mathlib.Data.List.Basic
import Mathlib.Data.List.Induction
import WebhookSync.Gateway.Store
import WebhookSync.Proofs.Reconcile.Shape
import WebhookSync.Proofs.Transcript
import WebhookSync.Reconcile.Basic

/-!
# Buckets and branches

Whatever own webhooks there are and whatever they listen to, the narrow buckets are apart and lie
within the broad one, and only what listens to no managed event is in none
(`Buckets.sorts_classify`).  A reconciliation that finds nothing to create has something in each
bucket on which it works, so its branches keep a webhook and it comes to one
(`Reconcile.buckets_serve_branches`).
-/

namespace WebhookSync

/-! ## Buckets -/

namespace Shape

/-- The bucket of what the shape gathers. -/
def bucket (buckets : Buckets) : Shape → List Webhook
  | mirror => buckets.mirrorSync
  | refOnly => buckets.refOnly
  | pullRequestOnly => buckets.pullRequestOnly
  | combined => buckets.refOrPullRequest

theorem bucket_classify (shape : Shape) (hooks : List Webhook) :
    shape.bucket (Buckets.classify hooks) = hooks.filter shape.gathers := by
  cases shape <;> rfl

/-- A greater shape has all in its bucket that a smaller one has, in the same order. -/
theorem bucket_sublist (first second : Shape) (below : first ≤ second) (hooks : List Webhook) :
    (first.bucket (Buckets.classify hooks)).Sublist (second.bucket (Buckets.classify hooks)) := by
  rw [bucket_classify, bucket_classify]
  exact List.monotone_filter_right hooks fun _ => gathers_mono below

/-- Webhooks of a narrow shape are in no bucket but those of greater shapes. -/
theorem bucket_disjoint (first second : Shape) (narrow : first ≠ first.broadest)
    (apart : ¬ first ≤ second) (hooks : List Webhook) :
    (first.bucket (Buckets.classify hooks)).Disjoint (second.bucket (Buckets.classify hooks)) := by
  intro hook inFirst inSecond
  rw [bucket_classify, List.mem_filter] at inFirst inSecond
  have sameEvents := events_eq_of_gathers narrow inFirst.2
  exact apart ((gathers_iff_le sameEvents).mp inSecond.2)

/-- What listens to a managed event is gathered by some shape. -/
theorem exists_gathers_of_subscribesTo {hook : Webhook} {event : Event}
    (subscribed : hook.subscribesTo event = true) : ∃ shape : Shape, shape.gathers hook = true := by
  rcases event.isMirrorSync_or_isRefOrPullRequest with isMirror | isTrigger
  · rw [Event.eq_mirrorSynchronized_of_isMirrorSync isMirror] at subscribed
    exact ⟨mirror, subscribed⟩
  · exact ⟨combined, Webhook.subscribesToAny_eq_true_iff.mpr ⟨event, isTrigger, subscribed⟩⟩

/-- What is in no bucket listens to no managed event. -/
theorem forall_not_mem_bucket_iff {hook : Webhook} {hooks : List Webhook} (member : hook ∈ hooks) :
    (∀ shape : Shape, hook ∉ shape.bucket (Buckets.classify hooks)) ↔
      ∀ event, hook.subscribesTo event = false := by
  simp only [bucket_classify, List.mem_filter, member, true_and]
  constructor
  · intro outside event
    refine Bool.eq_false_iff.mpr fun subscribed => ?_
    obtain ⟨shape, gathered⟩ := exists_gathers_of_subscribesTo subscribed
    exact outside shape gathered
  · intro unsubscribed shape gathered
    obtain ⟨event, subscribed⟩ := exists_subscribesTo_of_gathers gathered
    exact Bool.eq_false_iff.mp (unsubscribed event) subscribed

end Shape

namespace Buckets

/-- A bucket with a webhook at its end, if it belongs there. -/
def pushIf (belongs : Bool) (hook : Webhook) (bucket : List Webhook) : List Webhook :=
  if belongs then bucket ++ [hook] else bucket

theorem filter_concat (test : Webhook → Bool) (hooks : List Webhook) (hook : Webhook) :
    (hooks ++ [hook]).filter test = pushIf (test hook) hook (hooks.filter test) := by
  rw [List.filter_append, List.filter_singleton, pushIf]
  cases test hook <;> simp

/-- The buckets with one more webhook in each that it belongs to. -/
def put (buckets : Buckets) (hook : Webhook) : Buckets where
  mirrorSync := pushIf (hook.subscribesTo .mirrorSynchronized) hook buckets.mirrorSync
  refOnly := pushIf (hook.subscribesExactly .refChange) hook buckets.refOnly
  pullRequestOnly := pushIf (hook.subscribesExactly .pullRequest) hook buckets.pullRequestOnly
  refOrPullRequest :=
    pushIf (hook.subscribesToAny Event.isRefOrPullRequest) hook buckets.refOrPullRequest

theorem classify_concat (hooks : List Webhook) (hook : Webhook) :
    classify (hooks ++ [hook]) = (classify hooks).put hook := by
  simp only [classify, put, filter_concat]

/-- The buckets are filled in one pass over the webhooks. -/
theorem classify_eq_foldl (hooks : List Webhook) :
    classify hooks = hooks.foldl put ⟨[], [], [], []⟩ := by
  -- The pass fills the buckets at their ends, so the induction takes off the last webhook.
  induction hooks using List.reverseRecOn with
  | nil => rfl
  | append_singleton hooks hook ih => rw [classify_concat, ih, List.foldl_concat]

/-- The names of the pull request events. -/
def pullRequestNames : List String :=
  ["pr:opened", "pr:declined", "pr:deleted", "pr:merged"]

/-- The names of all managed events. -/
def managedNames : List String :=
  "mirror:repo_synchronized" :: "repo:refs_changed" :: pullRequestNames

/-- The buckets hold the webhooks of a list, sorted by the names of the events that they listen to:
each bucket those that it is for, in the order of the list. -/
structure Sorts (buckets : Buckets) (hooks : List Webhook) : Prop where
  /-- they are filled in one pass -/
  onePass : buckets = hooks.foldl put ⟨[], [], [], []⟩
  mirrorSync : buckets.mirrorSync =
    hooks.filter fun hook => "mirror:repo_synchronized" ∈ hook.events
  refOnly : buckets.refOnly =
    hooks.filter fun hook => hook.events = NameSet.ofList ["repo:refs_changed"]
  pullRequestOnly : buckets.pullRequestOnly =
    hooks.filter fun hook => hook.events = NameSet.ofList pullRequestNames
  refOrPullRequest : buckets.refOrPullRequest =
    hooks.filter fun hook =>
      ∃ name ∈ "repo:refs_changed" :: pullRequestNames, name ∈ hook.events
  refOnly_pullRequestOnly : buckets.refOnly.Disjoint buckets.pullRequestOnly
  refOnly_mirrorSync : buckets.refOnly.Disjoint buckets.mirrorSync
  pullRequestOnly_mirrorSync : buckets.pullRequestOnly.Disjoint buckets.mirrorSync
  refOnly_sublist : buckets.refOnly.Sublist buckets.refOrPullRequest
  pullRequestOnly_sublist : buckets.pullRequestOnly.Sublist buckets.refOrPullRequest
  /-- what is in no bucket listens to no managed event -/
  unsorted : ∀ hook ∈ hooks,
    hook ∉ buckets.mirrorSync ∧ hook ∉ buckets.refOnly ∧ hook ∉ buckets.pullRequestOnly ∧
        hook ∉ buckets.refOrPullRequest ↔
      ∀ name ∈ managedNames, name ∉ hook.events

theorem sorts_classify (hooks : List Webhook) : (classify hooks).Sorts hooks where
  onePass := classify_eq_foldl hooks
  mirrorSync := rfl
  refOnly := rfl
  pullRequestOnly := rfl
  refOrPullRequest := by
    apply List.filter_congr
    intro hook _
    rw [Bool.eq_iff_iff, Webhook.subscribesToAny_eq_true_iff, decide_eq_true_iff]
    have names : "repo:refs_changed" :: pullRequestNames =
      (Event.all.filter Event.isRefOrPullRequest).map Event.name := rfl
    simp [names, Webhook.subscribesTo]
  refOnly_pullRequestOnly :=
    Shape.bucket_disjoint .refOnly .pullRequestOnly (by decide) (by decide) _
  refOnly_mirrorSync :=
    Shape.bucket_disjoint .refOnly .mirror (by decide) (by decide) _
  pullRequestOnly_mirrorSync :=
    Shape.bucket_disjoint .pullRequestOnly .mirror (by decide) (by decide) _
  refOnly_sublist := Shape.bucket_sublist .refOnly .combined (by decide) _
  pullRequestOnly_sublist := Shape.bucket_sublist .pullRequestOnly .combined (by decide) _
  unsorted := by
    intro hook member
    have names : managedNames = Event.all.map Event.name := rfl
    have events : (∀ name ∈ managedNames, name ∉ hook.events) ↔
        ∀ event, hook.subscribesTo event = false := by
      simp [names, Webhook.subscribesTo]
    rw [events, ← Shape.forall_not_mem_bucket_iff member]
    constructor
    · rintro ⟨noMirror, noRef, noPullRequest, noTrigger⟩ shape
      cases shape with
      | mirror => exact noMirror
      | refOnly => exact noRef
      | pullRequestOnly => exact noPullRequest
      | combined => exact noTrigger
    · intro outside
      exact ⟨outside .mirror, outside .refOnly, outside .pullRequestOnly, outside .combined⟩

end Buckets

/-! ## Plans -/

namespace TriggerPlan

variable {refChange pullRequest : Bool} {buckets : Buckets}

/-- A narrow plan is chosen only where a webhook is narrow and the other kind is not wanted. -/
theorem choose_cases (refChange pullRequest : Bool) (buckets : Buckets) :
    choose refChange pullRequest buckets = .combined ∨
      choose refChange pullRequest buckets = .broaden ∨
      (choose refChange pullRequest buckets = .refOnly ∧ pullRequest = false ∧
        buckets.refOnly ≠ []) ∨
      choose refChange pullRequest buckets = .pullRequestOnly ∧ refChange = false ∧
        buckets.pullRequestOnly ≠ [] := by
  unfold choose
  cases refChange with
  | false =>
      cases pullRequest with
      | false => simp
      | true => cases buckets.pullRequestOnly <;> simp
  | true =>
      cases pullRequest with
      | false => cases buckets.refOnly <;> simp
      | true => simp

/-- Where something listens to a trigger, the plan has something to work on. -/
theorem bucket_choose_ne_nil (something : buckets.refOrPullRequest ≠ []) :
    (choose refChange pullRequest buckets).bucket buckets ≠ [] := by
  rcases choose_cases refChange pullRequest buckets with
    chosen | chosen | ⟨chosen, _, narrow⟩ | ⟨chosen, _, narrow⟩
  · rw [chosen]
    exact something
  · rw [chosen]
    exact something
  · rw [chosen]
    exact narrow
  · rw [chosen]
    exact narrow

/-- The plan strives for every event of the wanted kinds. -/
theorem contains_target_choose {event : Event} (isTrigger : event.isRefOrPullRequest = true)
    (refs : event.isRefChange = true → refChange = true)
    (pulls : event.isPullRequest = true → pullRequest = true) :
    (choose refChange pullRequest buckets).target.contains event = true := by
  rcases choose_cases refChange pullRequest buckets with
    chosen | chosen | ⟨chosen, noPulls, _⟩ | ⟨chosen, noRefs, _⟩
  · rw [chosen]
    exact isTrigger
  · rw [chosen]
    exact isTrigger
  -- A narrow plan leaves out one kind of events only, and that kind is not wanted.
  · rw [chosen]
    have noPull : event.isPullRequest = false :=
      Bool.eq_false_iff.mpr fun isPull => Bool.eq_false_iff.mp noPulls (pulls isPull)
    exact (Event.isRefChange_or_isPullRequest isTrigger).resolve_right (Bool.eq_false_iff.mp noPull)
  · rw [chosen]
    have noRef : event.isRefChange = false :=
      Bool.eq_false_iff.mpr fun isRef => Bool.eq_false_iff.mp noRefs (refs isRef)
    exact (Event.isRefChange_or_isPullRequest isTrigger).resolve_left (Bool.eq_false_iff.mp noRef)

end TriggerPlan

namespace BranchOutcome

/-- Of two branches that found something, or were not wanted, but not both not wanted, one gives a
webhook. -/
theorem exists_combine_eq_some {mirror triggers : BranchOutcome} (events : EventSet)
    (mirrorFound : mirror ≠ .empty) (triggersFound : triggers ≠ .empty)
    (ran : mirror ≠ .skipped ∨ triggers ≠ .skipped) :
    ∃ hook, mirror.combine triggers events = some hook := by
  cases mirror with
  | skipped =>
      cases triggers with
      | skipped => simp at ran
      | empty => exact absurd rfl triggersFound
      | kept hook => exact ⟨hook, rfl⟩
  | empty => exact absurd rfl mirrorFound
  | kept hook =>
      simp only [combine]
      split
      · exact ⟨hook, rfl⟩
      · cases triggers with
        | skipped => exact ⟨hook, rfl⟩
        | empty => exact absurd rfl triggersFound
        | kept other => exact ⟨other, rfl⟩

end BranchOutcome

namespace Reconcile

open Dialogue (Leads leads_andThen_ok leads_ask_iff leads_done_iff leads_require)
open Gateway (Answer Call Session)

variable {wanted : Subscription} {exchanges : List (Dialogue.Exchange Call Answer)}

theorem eq_of_leads_deleteAll {α : Type} {repository : Repository} {result found : α}
    {hooks : List Webhook}
    (leads : Leads (deleteAll repository result hooks) exchanges (.ok found)) : found = result := by
  induction hooks generalizing exchanges with
  | nil => exact Except.ok.inj (leads_done_iff.mp leads).2
  | cons hook rest ih =>
      obtain ⟨_, _, _, onward⟩ := leads_require leads
      exact ih onward

/-- Where there is something in a bucket, a webhook of it is kept. -/
theorem exists_of_leads_align {bucket : List Webhook} {target : EventSet} {kept : Option Webhook}
    (nonempty : bucket ≠ []) (leads : Leads (align wanted bucket target) exchanges (.ok kept)) :
    ∃ hook, kept = some hook := by
  unfold align at leads
  split at leads
  · exact absurd rfl nonempty
  · dsimp only at leads
    split at leads
    · exact ⟨_, eq_of_leads_deleteAll leads⟩
    · obtain ⟨_, _, _, onward⟩ := leads_require leads
      exact ⟨_, eq_of_leads_deleteAll onward⟩

/-- A branch that has something to work on if it is wanted is never left with nothing. -/
theorem of_leads_alignIf {isWanted : Bool} {bucket : List Webhook} {target : EventSet}
    {outcome : BranchOutcome} (nonempty : isWanted = true → bucket ≠ [])
    (leads : Leads (alignIf isWanted wanted bucket target) exchanges (.ok outcome)) :
    outcome ≠ .empty ∧ (isWanted = true → outcome ≠ .skipped) := by
  cases isWanted with
  | false =>
      obtain rfl : outcome = .skipped := Except.ok.inj (leads_done_iff.mp leads).2
      simp
  | true =>
      obtain ⟨kept, _, _, _, aligned, ends⟩ := leads_andThen_ok leads
      obtain ⟨hook, rfl⟩ := exists_of_leads_align (nonempty rfl) aligned
      obtain rfl : outcome = .kept hook := Except.ok.inj (leads_done_iff.mp ends).2
      simp

/-! ## Branches -/

/-- The plan where these events are wanted and these own webhooks are found. -/
def planOf (events : EventSet) (own : List Webhook) : TriggerPlan :=
  TriggerPlan.choose (events.any Event.isRefChange) (events.any Event.isPullRequest)
    (Buckets.classify own)

/-- The branch that looks after the mirror synchronisation. -/
def mirrorBranch (wanted : Subscription) (events : EventSet) (own : List Webhook) :
    Session (Except Failure BranchOutcome) :=
  alignIf (events.any Event.isMirrorSync) wanted (Buckets.classify own).mirrorSync .mirrorSync

/-- The branch that looks after branches, tags and pull requests. -/
def triggerBranch (wanted : Subscription) (events : EventSet) (own : List Webhook) :
    Session (Except Failure BranchOutcome) :=
  alignIf (events.any Event.isRefOrPullRequest) wanted
    ((planOf events own).bucket (Buckets.classify own)) (planOf events own).target

/-- A reconciliation that does not create runs its branches on what they need. -/
structure Served (wanted : Subscription) (events : EventSet) (own : List Webhook) : Prop where
  /-- both branches run, and their outcomes are combined -/
  runs : applyTo wanted events own =
    (mirrorBranch wanted events own).andThen fun mirror =>
      (triggerBranch wanted events own).andThen fun triggers =>
        .done (.ok (mirror.combine triggers events))
  mirrorBucket : events.any Event.isMirrorSync = true → (Buckets.classify own).mirrorSync ≠ []
  triggerBucket : events.any Event.isRefOrPullRequest = true →
    (planOf events own).bucket (Buckets.classify own) ≠ []
  target : ∀ event, events.contains event = true → event.isRefOrPullRequest = true →
    (planOf events own).target.contains event = true
  mirrorOutcome : ∀ exchanges outcome,
    Leads (mirrorBranch wanted events own) exchanges (.ok outcome) → outcome ≠ .empty
  triggerOutcome : ∀ exchanges outcome,
    Leads (triggerBranch wanted events own) exchanges (.ok outcome) → outcome ≠ .empty
  result : ∀ exchanges result, Leads (applyTo wanted events own) exchanges (.ok result) →
    ∃ hook, result = some hook

theorem applyTo_eq_branches {events : EventSet} {own : List Webhook}
    (notCreated : mustCreate events (Buckets.classify own) own = false) :
    applyTo wanted events own =
      (mirrorBranch wanted events own).andThen fun mirror =>
        (triggerBranch wanted events own).andThen fun triggers =>
          .done (.ok (mirror.combine triggers events)) := by
  simp only [applyTo, notCreated, Bool.false_eq_true, if_false]
  rfl

/-- Where nothing has to be created, there is a webhook for each kind of events that is wanted. -/
theorem of_mustCreate_eq_false {events : EventSet} {buckets : Buckets} {own : List Webhook}
    (notCreated : mustCreate events buckets own = false) :
    (events.any Event.isMirrorSync = true → buckets.mirrorSync ≠ []) ∧
      (events.any Event.isRefOrPullRequest = true → buckets.refOrPullRequest ≠ []) := by
  simp only [mustCreate, Bool.or_eq_false_iff, Bool.and_eq_false_imp,
    List.isEmpty_eq_false_iff] at notCreated
  exact ⟨notCreated.1.2, notCreated.2⟩

/-- One of the branches runs as soon as any event is wanted. -/
theorem wants_some_branch {events : EventSet} (nonempty : events.isEmpty = false) :
    events.any Event.isMirrorSync = true ∨ events.any Event.isRefOrPullRequest = true := by
  obtain ⟨event, contained⟩ : ∃ event, events.contains event = true := by
    by_contra nothing
    simp only [not_exists, Bool.not_eq_true] at nothing
    rw [EventSet.isEmpty_eq_true_iff.mpr nothing] at nonempty
    cases nonempty
  rcases event.isMirrorSync_or_isRefOrPullRequest with isMirror | isTrigger
  · exact .inl (EventSet.any_eq_true_iff.mpr ⟨event, contained, isMirror⟩)
  · exact .inr (EventSet.any_eq_true_iff.mpr ⟨event, contained, isTrigger⟩)

theorem served_of_mustCreate_eq_false {events : EventSet} {own : List Webhook}
    (nonempty : events.isEmpty = false)
    (notCreated : mustCreate events (Buckets.classify own) own = false) :
    Served wanted events own := by
  obtain ⟨mirrorBucket, something⟩ := of_mustCreate_eq_false notCreated
  have triggerBucket (isWanted : events.any Event.isRefOrPullRequest = true) :
      (planOf events own).bucket (Buckets.classify own) ≠ [] :=
    TriggerPlan.bucket_choose_ne_nil (something isWanted)
  have runs : applyTo wanted events own = _ := applyTo_eq_branches notCreated
  refine ⟨runs, mirrorBucket, triggerBucket, ?_, ?_, ?_, ?_⟩
  · intro event contained isTrigger
    exact TriggerPlan.contains_target_choose isTrigger
      (fun isRef => EventSet.any_eq_true_iff.mpr ⟨event, contained, isRef⟩)
      (fun isPull => EventSet.any_eq_true_iff.mpr ⟨event, contained, isPull⟩)
  · intro exchanges outcome leads
    exact (of_leads_alignIf mirrorBucket leads).1
  · intro exchanges outcome leads
    exact (of_leads_alignIf triggerBucket leads).1
  · intro exchanges result leads
    rw [runs] at leads
    obtain ⟨mirror, _, _, _, leadsMirror, onward⟩ := leads_andThen_ok leads
    obtain ⟨triggers, _, _, _, leadsTriggers, ends⟩ := leads_andThen_ok onward
    rw [Except.ok.inj (leads_done_iff.mp ends).2]
    obtain ⟨mirrorFound, mirrorRan⟩ := of_leads_alignIf mirrorBucket leadsMirror
    obtain ⟨triggersFound, triggersRan⟩ := of_leads_alignIf triggerBucket leadsTriggers
    exact BranchOutcome.exists_combine_eq_some events mirrorFound triggersFound
      ((wants_some_branch nonempty).imp mirrorRan triggersRan)

/-- Behind the listing, the own webhooks among the listed ones are brought in line. -/
theorem leads_apply {events : EventSet} {hooks : List Webhook}
    {result : Except Failure (Option Webhook)}
    (leads : Leads (apply wanted events)
      (⟨.list wanted.repository Event.all, .ok hooks⟩ :: exchanges) result) :
    Leads (applyTo wanted events (owned wanted hooks)) exchanges result := by
  rw [apply, listOwned, Dialogue.require_andThen, Dialogue.require] at leads
  cases leads with
  | ask onward => exact onward

/-- A reconciliation that makes no creation had nothing to create. -/
theorem mustCreate_eq_false_of_leads {events : EventSet} {own : List Webhook}
    {result : Except Failure (Option Webhook)}
    (leads : Leads (applyTo wanted events own) exchanges result)
    (noCreation : ∀ exchange ∈ exchanges, exchange.question.operation ≠ .create) :
    mustCreate events (Buckets.classify own) own = false := by
  refine Bool.eq_false_iff.mpr fun mustCreate => ?_
  simp only [applyTo, mustCreate, if_true] at leads
  obtain ⟨_, _, rfl, _⟩ := leads_ask_iff.mp leads
  exact noCreation _ List.mem_cons_self rfl

/-- Whatever webhooks there are, the buckets hold what they are to hold.  And whatever events are
wanted, a reconciliation that finds nothing to create runs its branches on webhooks of theirs and
comes to a webhook. -/
theorem buckets_serve_branches :
    (∀ hooks : List Webhook, (Buckets.classify hooks).Sorts hooks) ∧
      ∀ (wanted : Subscription) (events : EventSet), events.isEmpty = false →
        (∀ own, mustCreate events (Buckets.classify own) own = false →
          Served wanted events own) ∧
        ∀ hooks exchanges result,
          Leads (apply wanted events)
            (⟨.list wanted.repository Event.all, .ok hooks⟩ :: exchanges) result →
          (∀ exchange ∈ exchanges, exchange.question.operation ≠ .create) →
          Served wanted events (owned wanted hooks) := by
  refine ⟨Buckets.sorts_classify, fun wanted events nonempty => ⟨?_, ?_⟩⟩
  · intro own notCreated
    exact served_of_mustCreate_eq_false nonempty notCreated
  · intro hooks exchanges result leads noCreation
    have notCreated := mustCreate_eq_false_of_leads (leads_apply leads) noCreation
    exact served_of_mustCreate_eq_false nonempty notCreated

theorem buckets_serve_branches_listed_twice :
    let wanted : Subscription := ⟨⟨"P", "r"⟩, "ci", "https://ci", false, true, false⟩
    let wide : Webhook :=
      ⟨1, "ci", .ofList ["repo:refs_changed", "repo:comment:added"], "https://old", true⟩
    let narrow : Webhook := ⟨1, "ci", .ofList ["repo:refs_changed"], "https://ci", true⟩
    let own := [wide, narrow]
    EventSet.refChange.isEmpty = false ∧
      mustCreate .refChange (Buckets.classify own) own = false ∧
      Served wanted .refChange own ∧
      Leads (apply wanted .refChange) [⟨.list wanted.repository Event.all, .ok own⟩]
        (.ok (some narrow)) ∧
      Served wanted .refChange (owned wanted own) := by
  intro wanted wide narrow own
  have nonempty : EventSet.refChange.isEmpty = false := by decide
  have notCreated : mustCreate .refChange (Buckets.classify own) own = false := by decide
  have leads : Leads (apply wanted .refChange) [⟨.list wanted.repository Event.all, .ok own⟩]
      (.ok (some narrow)) := .ask (.done _)
  obtain ⟨found, listed⟩ := buckets_serve_branches.2 wanted .refChange nonempty
  exact ⟨nonempty, notCreated, found own notCreated, leads,
    listed own [] _ leads (List.forall_mem_nil _)⟩

end Reconcile

end WebhookSync
