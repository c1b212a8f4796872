import WebhookSync.Proofs.Gateway.Effects
import WebhookSync.Proofs.Reconcile.Changes

/-!
# Progress of a reconciliation

Every change that a reconciliation makes brings it one change closer to its end: with the first of
its changes made, it would make just the remaining ones and end with the same webhook
(`changes_perform`, `outcome_perform`).  So it does not matter whether a run goes on or begins
anew, nor how often.  The changes reach nothing but what the reconciliation gathers
(`mem_untouched_perform`).
-/

namespace WebhookSync.Reconcile

open Gateway (Call Store)

/-- The webhook that is created for a subscription. -/
def fresh (wanted : Subscription) (kind : Shape) (id : Int64) : Webhook :=
  ⟨id, wanted.name, kind.events.names, wanted.callbackUrl, true⟩

theorem fits_fresh (wanted : Subscription) (kind : Shape) (id : Int64) :
    fits wanted kind (fresh wanted kind id) = true :=
  Webhook.isUpToDate_iff.mpr ⟨rfl, rfl, rfl, rfl⟩

/-- The webhook with which a reconciliation ends; a new one gets the next id. -/
def outcome (wanted : Subscription) (kind : Shape) (hooks : List Webhook) (nextId : Int64) :
    Webhook :=
  match anchor? wanted (choose wanted kind hooks) hooks with
  | none => fresh wanted kind nextId
  | some anchor => anchor.rewrittenFor wanted (choose wanted kind hooks).events

/-- A webhook is kept as it is, and only the leftover ones are still to be deleted. -/
structure Kept (wanted : Subscription) (kind : Shape) (hooks : List Webhook) (kept : Webhook)
    (leftover : List Webhook) : Prop where
  anchor : anchor? wanted (choose wanted kind hooks) hooks = some kept
  fit : fits wanted (choose wanted kind hooks) kept = true
  rest : others wanted (choose wanted kind hooks) kept hooks = leftover

/-- The first change of a reconciliation, and the webhooks that are still to be deleted behind
it. -/
inductive Due (wanted : Subscription) (kind : Shape) (hooks : List Webhook) :
    Call → List Webhook → Prop where
  | create (nothing : anchor? wanted (choose wanted kind hooks) hooks = none) :
      Due wanted kind hooks
        (.create wanted.repository wanted.name kind.events wanted.callbackUrl) []
  | update {anchor : Webhook}
      (found : anchor? wanted (choose wanted kind hooks) hooks = some anchor)
      (unfit : fits wanted (choose wanted kind hooks) anchor = false) :
      Due wanted kind hooks
        (.update wanted.repository anchor.id wanted.name (choose wanted kind hooks).events
          wanted.callbackUrl)
        (others wanted (choose wanted kind hooks) anchor hooks)
  | delete {kept gone : Webhook} {leftover : List Webhook}
      (whole : Kept wanted kind hooks kept (gone :: leftover)) :
      Due wanted kind hooks (.delete wanted.repository gone.id) leftover

namespace Kept

variable {wanted : Subscription} {kind : Shape} {hooks leftover : List Webhook} {kept : Webhook}
  (whole : Kept wanted kind hooks kept leftover)

include whole

theorem changes_eq : changes wanted kind hooks = deletions wanted.repository leftover := by
  simp only [changes, whole.anchor, whole.fit, if_true, List.nil_append, whole.rest, deletions]

theorem settle_eq :
    settle wanted kind hooks = deleteAll wanted.repository (some kept) leftover := by
  simp only [settle, whole.anchor, keep, whole.fit, if_true, whole.rest]

theorem outcome_eq (nextId : Int64) : outcome wanted kind hooks nextId = kept := by
  simp only [outcome, whole.anchor]
  exact Webhook.rewrittenFor_of_isUpToDate whole.fit

end Kept

/-- The first change is due when there is one. -/
theorem due_of_changes_eq_cons {wanted : Subscription} {kind : Shape} {hooks : List Webhook}
    {call : Call} {rest : List Call} (next : changes wanted kind hooks = call :: rest) :
    ∃ leftover, rest = deletions wanted.repository leftover ∧
      Due wanted kind hooks call leftover := by
  unfold changes at next
  cases found : anchor? wanted (choose wanted kind hooks) hooks with
  | none =>
      rw [found] at next
      obtain ⟨rfl, rfl⟩ := List.cons.inj next
      exact ⟨[], rfl, .create found⟩
  | some anchor =>
      rw [found] at next
      cases fit : fits wanted (choose wanted kind hooks) anchor with
      | false =>
          simp only [fit, Bool.false_eq_true, if_false, List.singleton_append] at next
          obtain ⟨rfl, rfl⟩ := List.cons.inj next
          exact ⟨_, rfl, .update found fit⟩
      | true =>
          simp only [fit, if_true, List.nil_append] at next
          obtain ⟨gone, leftover, split, rfl, rfl⟩ := List.map_eq_cons_iff.mp next
          exact ⟨leftover, rfl, .delete ⟨found, fit, split⟩⟩

/-- Nothing is to be changed just when a webhook is kept as it is and nothing is left over. -/
theorem changes_eq_nil_iff {wanted : Subscription} {kind : Shape} {hooks : List Webhook} :
    changes wanted kind hooks = [] ↔ ∃ kept, Kept wanted kind hooks kept [] := by
  constructor
  · intro nothing
    unfold changes at nothing
    cases found : anchor? wanted (choose wanted kind hooks) hooks with
    | none => simp [found] at nothing
    | some anchor =>
        simp only [found, List.append_eq_nil_iff, deletions, List.map_eq_nil_iff] at nothing
        refine ⟨anchor, found, ?_, nothing.2⟩
        by_contra unfit
        rw [if_neg unfit] at nothing
        exact List.cons_ne_nil _ _ nothing.1
  · rintro ⟨kept, whole⟩
    exact whole.changes_eq

/-! ## The anchor -/

/-- An anchor that fits is the first to fit. -/
theorem find?_fits_of_fit {wanted : Subscription} {shape : Shape} {hooks : List Webhook}
    {anchor : Webhook} (found : anchor? wanted shape hooks = some anchor)
    (fit : fits wanted shape anchor = true) :
    (gathered wanted shape hooks).find? (fits wanted shape) = some anchor := by
  rcases Option.or_eq_some_iff.mp found with first | ⟨nothing, _⟩
  · exact first
  · exact absurd fit (List.find?_eq_none.mp nothing anchor (anchor_mem found))

/-- An anchor that does not fit is the first of all. -/
theorem gathered_eq_cons_of_unfit {wanted : Subscription} {shape : Shape} {hooks : List Webhook}
    {anchor : Webhook} (found : anchor? wanted shape hooks = some anchor)
    (unfit : fits wanted shape anchor = false) :
    ∃ rest, gathered wanted shape hooks = anchor :: rest := by
  rcases Option.or_eq_some_iff.mp found with first | ⟨_, first⟩
  · exact absurd (List.find?_some first) (by simp [unfit])
  · exact List.head?_eq_some_iff.mp first

/-- The first to fit is the anchor. -/
theorem anchor?_eq_some_of_find? {wanted : Subscription} {shape : Shape} {hooks : List Webhook}
    {anchor : Webhook}
    (first : (gathered wanted shape hooks).find? (fits wanted shape) = some anchor) :
    anchor? wanted shape hooks = some anchor := by
  rw [anchor?, first, Option.some_or]

/-- The chosen shape is the same for lists in which the wanted shape gathers something both times
or neither time. -/
theorem choose_congr {wanted : Subscription} {kind : Shape} {hooks hooks' : List Webhook}
    (same : gathered wanted kind hooks' = [] ↔ gathered wanted kind hooks = []) :
    choose wanted kind hooks' = choose wanted kind hooks := by
  unfold choose
  simp only [List.isEmpty_iff, same]

/-- A chosen shape other than the wanted one was chosen because the wanted one gathers nothing. -/
theorem gathered_eq_nil_of_choose_ne {wanted : Subscription} {kind : Shape}
    {hooks : List Webhook} (different : choose wanted kind hooks ≠ kind) :
    gathered wanted kind hooks = [] := by
  unfold choose at different
  split at different
  · rename_i empty
    exact List.isEmpty_iff.mp empty
  · exact absurd rfl different

/-! ## With one webhook deleted -/

theorem gathered_filter (wanted : Subscription) (shape : Shape) (test : Webhook → Bool)
    (hooks : List Webhook) :
    gathered wanted shape (hooks.filter test) = (gathered wanted shape hooks).filter test := by
  simp only [gathered_eq_filter, List.filter_filter, Bool.and_comm]

theorem find?_filter_of_find? {test keep : Webhook → Bool} {hooks : List Webhook} {hook : Webhook}
    (found : hooks.find? test = some hook) (kept : keep hook = true) :
    (hooks.filter keep).find? test = some hook := by
  induction hooks with
  | nil => exact absurd found.symm (Option.some_ne_none hook)
  | cons first rest ih =>
      by_cases passes : test first = true
      · rw [List.find?_cons_of_pos passes] at found
        obtain rfl := Option.some.inj found
        rw [List.filter_cons_of_pos kept, List.find?_cons_of_pos passes]
      · rw [List.find?_cons_of_neg passes] at found
        cases stays : keep first with
        | true => rw [List.filter_cons_of_pos stays, List.find?_cons_of_neg passes, ih found]
        | false => rw [List.filter_cons_of_neg (by simp [stays]), ih found]

/-- As long as something that is gathered stays, the same shape is chosen. -/
theorem choose_filter {wanted : Subscription} {kind : Shape} {hooks : List Webhook} {kept : Webhook}
    {test : Webhook → Bool} (member : kept ∈ gathered wanted (choose wanted kind hooks) hooks)
    (stays : test kept = true) :
    choose wanted kind (hooks.filter test) = choose wanted kind hooks := by
  apply choose_congr
  rw [gathered_filter]
  constructor
  · intro empty
    by_contra nonempty
    have same : choose wanted kind hooks = kind := by
      by_contra other
      exact nonempty (gathered_eq_nil_of_choose_ne other)
    rw [same] at member
    have left := List.mem_filter.mpr ⟨member, stays⟩
    rw [empty] at left
    exact List.not_mem_nil left
  · intro empty
    rw [empty, List.filter_nil]

section Deleted

variable {wanted : Subscription} {kind : Shape} {hooks leftover : List Webhook}
  {kept gone : Webhook} (whole : Kept wanted kind hooks kept (gone :: leftover))

include whole

theorem id_kept_ne : kept.id ≠ gone.id := by
  have member : gone ∈ others wanted (choose wanted kind hooks) kept hooks :=
    whole.rest ▸ List.mem_cons_self
  exact (mem_others.mp member).2.symm

/-- Without another webhook than the kept one the same shape is chosen. -/
theorem choose_deleted :
    choose wanted kind (hooks.filter fun hook => hook.id ≠ gone.id) = choose wanted kind hooks :=
  choose_filter (anchor_mem whole.anchor) (decide_eq_true (id_kept_ne whole))

/-- Without the first of the other webhooks, the others are the remaining ones. -/
theorem others_deleted (distinct : (hooks.map Webhook.id).Nodup) :
    others wanted (choose wanted kind hooks) kept (hooks.filter fun hook => hook.id ≠ gone.id) =
      leftover := by
  have swapped : others wanted (choose wanted kind hooks) kept
      (hooks.filter fun hook => hook.id ≠ gone.id) =
      (others wanted (choose wanted kind hooks) kept hooks).filter fun hook =>
        hook.id ≠ gone.id := by
    simp only [others, gathered_filter, List.filter_filter, Bool.and_comm]
  have sublist : (gone :: leftover).Sublist hooks := by
    rw [← whole.rest, others, gathered_eq_filter]
    exact List.filter_sublist.trans List.filter_sublist
  have distinctOthers := distinct.sublist (sublist.map Webhook.id)
  rw [List.map_cons, List.nodup_cons] at distinctOthers
  rw [swapped, whole.rest, List.filter_cons_of_neg (by simp)]
  apply List.filter_eq_self.mpr
  intro hook member
  have different : hook.id ≠ gone.id := by
    intro same
    exact distinctOthers.1 (same ▸ List.mem_map_of_mem member)
  exact decide_eq_true different

theorem kept_deleted (distinct : (hooks.map Webhook.id).Nodup) :
    Kept wanted kind (hooks.filter fun hook => hook.id ≠ gone.id) kept leftover := by
  have chosen := choose_deleted whole
  constructor
  · rw [chosen]
    apply anchor?_eq_some_of_find?
    rw [gathered_filter]
    exact find?_filter_of_find? (find?_fits_of_fit whole.anchor whole.fit)
      (decide_eq_true (id_kept_ne whole))
  · rw [chosen]
    exact whole.fit
  · rw [chosen]
    exact others_deleted whole distinct

end Deleted

/-! ## With the anchor rewritten -/

/-- The list with the webhook of an id rewritten for a subscription. -/
def rewriteAt (wanted : Subscription) (events : EventSet) (id : Int64) (hooks : List Webhook) :
    List Webhook :=
  hooks.map fun hook => if hook.id = id then hook.rewrittenFor wanted events else hook

theorem mem_rewriteAt {wanted : Subscription} {events : EventSet} {anchor : Webhook}
    {hooks : List Webhook} (distinct : (hooks.map Webhook.id).Nodup) (member : anchor ∈ hooks)
    {hook : Webhook} :
    hook ∈ rewriteAt wanted events anchor.id hooks ↔
      hook = anchor.rewrittenFor wanted events ∨ hook ∈ hooks ∧ hook ≠ anchor := by
  rw [rewriteAt, List.mem_map]
  constructor
  · rintro ⟨old, oldMember, rfl⟩
    by_cases same : old.id = anchor.id
    · rw [if_pos same, List.inj_on_of_nodup_map distinct oldMember member same]
      exact .inl rfl
    · rw [if_neg same]
      exact .inr ⟨oldMember, fun equal => same (congrArg Webhook.id equal)⟩
  · rintro (rfl | ⟨old, different⟩)
    · exact ⟨anchor, member, if_pos rfl⟩
    · refine ⟨hook, old, if_neg fun same => ?_⟩
      exact different (List.inj_on_of_nodup_map distinct old member same)

section Rewritten

variable {wanted : Subscription} {kind : Shape} {hooks : List Webhook} {anchor : Webhook}
  (distinct : (hooks.map Webhook.id).Nodup)
  (found : anchor? wanted (choose wanted kind hooks) hooks = some anchor)

include distinct found

/-- The rewritten anchor is gathered as the anchor was. -/
theorem gathers_rewritten {hook : Webhook} (member : hook ∈ hooks) :
    let rewritten := if hook.id = anchor.id then
      hook.rewrittenFor wanted (choose wanted kind hooks).events else hook
    (rewritten.isOwnedBy wanted && (choose wanted kind hooks).gathers rewritten) =
      (hook.isOwnedBy wanted && (choose wanted kind hooks).gathers hook) := by
  obtain ⟨listed, own, gathers⟩ := mem_gathered.mp (anchor_mem found)
  by_cases same : hook.id = anchor.id
  · obtain rfl := List.inj_on_of_nodup_map distinct member listed same
    simp only [if_true]
    rw [own, gathers,
      Webhook.isOwnedBy_of_isUpToDate (Webhook.isUpToDate_rewrittenFor wanted _ hook),
      Shape.gathers_of_events_eq rfl]
  · simp only [if_neg same]

/-- The rewritten anchor is gathered where the anchor was, and nothing else changes. -/
theorem gathered_rewritten :
    gathered wanted (choose wanted kind hooks)
        (rewriteAt wanted (choose wanted kind hooks).events anchor.id hooks) =
      rewriteAt wanted (choose wanted kind hooks).events anchor.id
        (gathered wanted (choose wanted kind hooks) hooks) := by
  rw [gathered_eq_filter, gathered_eq_filter, rewriteAt, rewriteAt, List.filter_map]
  congr 1
  exact List.filter_congr fun hook member => gathers_rewritten distinct found member

/-- With the anchor rewritten the same shape is chosen: either the anchor has it now, or the wanted
shape still gathers nothing. -/
theorem choose_rewritten :
    choose wanted kind (rewriteAt wanted (choose wanted kind hooks).events anchor.id hooks) =
      choose wanted kind hooks := by
  apply choose_congr
  by_cases same : choose wanted kind hooks = kind
  · have rewritten := gathered_rewritten distinct found
    rw [same] at rewritten ⊢
    rw [rewritten, rewriteAt, List.map_eq_nil_iff]
  · have empty := gathered_eq_nil_of_choose_ne same
    rw [empty, List.eq_nil_iff_forall_not_mem]
    simp only [iff_true]
    intro hook member
    obtain ⟨listed, own, gathers⟩ := mem_gathered.mp member
    have anchorListed := (mem_gathered.mp (anchor_mem found)).1
    rcases (mem_rewriteAt distinct anchorListed).mp listed with rfl | ⟨old, _⟩
    · exact same (Shape.le_antisymm ((Shape.gathers_iff_le rfl).mp gathers)
        (le_choose wanted kind hooks))
    · have unchanged := mem_gathered.mpr ⟨old, own, gathers⟩
      rw [empty] at unchanged
      exact List.not_mem_nil unchanged

theorem others_rewritten :
    others wanted (choose wanted kind hooks)
        (anchor.rewrittenFor wanted (choose wanted kind hooks).events)
        (rewriteAt wanted (choose wanted kind hooks).events anchor.id hooks) =
      others wanted (choose wanted kind hooks) anchor hooks := by
  rw [others, others, gathered_rewritten distinct found, rewriteAt, List.filter_map]
  have sameIds : ((fun hook : Webhook => hook.id !=
        (anchor.rewrittenFor wanted (choose wanted kind hooks).events).id) ∘
      fun hook => if hook.id = anchor.id then
        hook.rewrittenFor wanted (choose wanted kind hooks).events else hook) =
      fun hook => hook.id != anchor.id := by
    funext hook
    simp only [Function.comp_apply, Webhook.rewrittenFor_id]
    split <;> rfl
  rw [sameIds]
  have unchanged : ∀ hook ∈ (gathered wanted (choose wanted kind hooks) hooks).filter
      (fun hook => hook.id != anchor.id), (if hook.id = anchor.id then
        hook.rewrittenFor wanted (choose wanted kind hooks).events else hook) = id hook := by
    intro hook member
    exact if_neg (by simpa using (List.mem_filter.mp member).2)
  rw [List.map_congr_left unchanged, List.map_id]

/-- The rewritten anchor is the first to fit: it was so before, or it was the first of all. -/
theorem find?_rewritten :
    (gathered wanted (choose wanted kind hooks)
        (rewriteAt wanted (choose wanted kind hooks).events anchor.id hooks)).find?
          (fits wanted (choose wanted kind hooks)) =
      some (anchor.rewrittenFor wanted (choose wanted kind hooks).events) := by
  rw [gathered_rewritten distinct found]
  cases fit : fits wanted (choose wanted kind hooks) anchor with
  | true =>
      have unchanged : ∀ hook ∈ gathered wanted (choose wanted kind hooks) hooks,
          (if hook.id = anchor.id then
            hook.rewrittenFor wanted (choose wanted kind hooks).events else hook) = id hook := by
        intro hook member
        split
        · rename_i same
          obtain rfl := List.inj_on_of_nodup_map distinct (mem_gathered.mp member).1
            (mem_gathered.mp (anchor_mem found)).1 same
          exact Webhook.rewrittenFor_of_isUpToDate fit
        · rfl
      rw [rewriteAt, List.map_congr_left unchanged, List.map_id,
        Webhook.rewrittenFor_of_isUpToDate fit]
      exact find?_fits_of_fit found fit
  | false =>
      obtain ⟨rest, first⟩ := gathered_eq_cons_of_unfit found fit
      rw [first, rewriteAt, List.map_cons, if_pos rfl]
      exact List.find?_cons_of_pos (Webhook.isUpToDate_rewrittenFor wanted _ anchor)

theorem kept_rewritten :
    Kept wanted kind
      (rewriteAt wanted (choose wanted kind hooks).events anchor.id hooks)
      (anchor.rewrittenFor wanted (choose wanted kind hooks).events)
      (others wanted (choose wanted kind hooks) anchor hooks) := by
  have chosen := choose_rewritten distinct found
  constructor
  · rw [chosen]
    exact anchor?_eq_some_of_find? (find?_rewritten distinct found)
  · rw [chosen]
    exact Webhook.isUpToDate_rewrittenFor wanted _ anchor
  · rw [chosen]
    exact others_rewritten distinct found

end Rewritten

/-! ## With a webhook created -/

/-- Where there is no anchor, neither the wanted shape nor the chosen one gathers anything. -/
theorem gathered_eq_nil_of_anchor?_eq_none {wanted : Subscription} {kind : Shape}
    {hooks : List Webhook} (nothing : anchor? wanted (choose wanted kind hooks) hooks = none) :
    gathered wanted kind hooks = [] := by
  have empty := gathered_choose_eq_nil_iff.mp (anchor?_eq_none_iff.mp nothing)
  rw [List.eq_nil_iff_forall_not_mem]
  intro hook member
  obtain ⟨listed, own, gathers⟩ := mem_gathered.mp member
  have wider := mem_gathered.mpr ⟨listed, own, Shape.gathers_mono kind.le_broadest gathers⟩
  rw [empty] at wider
  exact List.not_mem_nil wider

section Created

variable {wanted : Subscription} {kind : Shape} {hooks : List Webhook}
  (nothing : anchor? wanted (choose wanted kind hooks) hooks = none) (id : Int64)

include nothing

theorem gathered_created :
    gathered wanted kind (hooks ++ [fresh wanted kind id]) = [fresh wanted kind id] := by
  have empty := gathered_eq_nil_of_anchor?_eq_none nothing
  have own := Webhook.isOwnedBy_of_isUpToDate (fits_fresh wanted kind id)
  have gathers : kind.gathers (fresh wanted kind id) = true := Shape.gathers_of_events_eq rfl
  rw [gathered_eq_filter] at empty ⊢
  rw [List.filter_append, empty, List.nil_append]
  exact List.filter_cons_of_pos (by simp [own, gathers])

/-- A created webhook has the wanted shape, so this is the one that is chosen from then on. -/
theorem choose_created : choose wanted kind (hooks ++ [fresh wanted kind id]) = kind := by
  by_contra different
  have empty := gathered_eq_nil_of_choose_ne different
  rw [gathered_created nothing] at empty
  exact List.cons_ne_nil _ _ empty

theorem kept_created :
    Kept wanted kind (hooks ++ [fresh wanted kind id]) (fresh wanted kind id) [] := by
  have alone := gathered_created nothing id
  have chosen := choose_created nothing id
  constructor
  · rw [chosen]
    apply anchor?_eq_some_of_find?
    rw [alone]
    exact List.find?_cons_of_pos (fits_fresh wanted kind id)
  · rw [chosen]
    exact fits_fresh wanted kind id
  · rw [chosen, others, alone]
    simp

end Created

/-! ## One change closer to the end -/

/-- A creation puts the fresh webhook behind the others. -/
theorem webhooks_create (store : Store) (wanted : Subscription) (kind : Shape) :
    (store.perform (.create wanted.repository wanted.name kind.events
      wanted.callbackUrl)).2.webhooks wanted.repository =
        store.webhooks wanted.repository ++ [fresh wanted kind store.nextId] :=
  Store.webhooks_perform_create store wanted.repository wanted.name kind.events wanted.callbackUrl

/-- An update rewrites the webhook of the id. -/
theorem webhooks_update {store : Store} {wanted : Subscription}
    (distinct : ((store.webhooks wanted.repository).map Webhook.id).Nodup) (events : EventSet)
    (id : Int64) :
    (store.perform (.update wanted.repository id wanted.name events
      wanted.callbackUrl)).2.webhooks wanted.repository =
        rewriteAt wanted events id (store.webhooks wanted.repository) :=
  Store.webhooks_perform_update store distinct id wanted.name events wanted.callbackUrl

section Perform

variable {store : Store} {wanted : Subscription} {kind : Shape} {call : Call}
  {leftover : List Webhook} (distinct : ((store.webhooks wanted.repository).map Webhook.id).Nodup)
  (due : Due wanted kind (store.webhooks wanted.repository) call leftover)

include distinct due

/-- Whatever the first change is, behind it the webhook is there with which the reconciliation
ends, and nothing is to be done but to delete what is left over. -/
theorem Due.kept :
    Kept wanted kind ((store.perform call).2.webhooks wanted.repository)
      (outcome wanted kind (store.webhooks wanted.repository) store.nextId) leftover := by
  cases due with
  | create nothing =>
      rw [webhooks_create, outcome, nothing]
      exact kept_created nothing store.nextId
  | update found unfit =>
      rw [webhooks_update distinct, outcome, found]
      exact kept_rewritten distinct found
  | delete whole =>
      rw [Store.webhooks_perform_delete, whole.outcome_eq]
      exact kept_deleted whole distinct

/-- The reconciliation begins with the first change, and goes on as if it began anew behind it. -/
theorem Due.settle_eq :
    ∃ next reply, settle wanted kind (store.webhooks wanted.repository) = .require call next ∧
      (store.perform call).1 = .ok reply ∧
      next reply = settle wanted kind ((store.perform call).2.webhooks wanted.repository) := by
  rw [(due.kept distinct).settle_eq]
  cases due with
  | create nothing =>
      refine ⟨fun created => .done (.ok (some created)), fresh wanted kind store.nextId, ?_, rfl,
        ?_⟩
      · rw [settle, nothing]
      · rw [outcome, nothing]
        rfl
  | @update anchor found unfit =>
      have member := (mem_gathered.mp (anchor_mem found)).1
      refine ⟨_, _, settle_of_unfit found unfit,
        Store.perform_update_reply store distinct member _, ?_⟩
      rw [outcome, found]
  | @delete kept gone leftover whole =>
      have other : gone ∈ others wanted (choose wanted kind (store.webhooks wanted.repository)) kept
          (store.webhooks wanted.repository) := whole.rest ▸ List.mem_cons_self
      have member := (mem_gathered.mp (mem_others.mp other).1).1
      refine ⟨fun _ => deleteAll wanted.repository (some kept) leftover, (), ?_,
        Store.perform_delete_reply store member, ?_⟩
      · rw [whole.settle_eq, deleteAll]
      · rw [whole.outcome_eq]

end Perform

/-! ## What is left alone -/

theorem distinct_gathered {hooks : List Webhook} (distinct : (hooks.map Webhook.id).Nodup)
    (wanted : Subscription) (shape : Shape) :
    ((gathered wanted shape hooks).map Webhook.id).Nodup :=
  distinct.sublist ((gathered_sublist wanted shape hooks).map Webhook.id)

/-- A listed webhook that a reconciliation does not gather. -/
def Untouched (wanted : Subscription) (kind : Shape) (hooks : List Webhook) (hook : Webhook) :
    Prop :=
  hook ∈ hooks ∧ hook ∉ gathered wanted (choose wanted kind hooks) hooks

/-- The listed webhooks that a reconciliation does not gather. -/
def outside (wanted : Subscription) (kind : Shape) (hooks : List Webhook) : List Webhook :=
  hooks.filter fun hook => !(hook.isOwnedBy wanted && (choose wanted kind hooks).gathers hook)

theorem mem_outside {wanted : Subscription} {kind : Shape} {hooks : List Webhook}
    {hook : Webhook} :
    hook ∈ outside wanted kind hooks ↔ Untouched wanted kind hooks hook := by
  rw [Untouched, gathered_eq_filter, outside, List.mem_filter, List.mem_filter,
    Bool.not_eq_true']
  constructor
  · rintro ⟨listed, isOutside⟩
    exact ⟨listed, fun inside => by simp [isOutside] at inside⟩
  · rintro ⟨listed, isOutside⟩
    exact ⟨listed, Bool.eq_false_iff.mpr fun inside => isOutside ⟨listed, inside⟩⟩

/-- All webhooks are those that are gathered and those that are left alone. -/
theorem gathered_append_outside (wanted : Subscription) (kind : Shape) (hooks : List Webhook) :
    (gathered wanted (choose wanted kind hooks) hooks ++ outside wanted kind hooks).Perm hooks := by
  rw [gathered_eq_filter, outside]
  exact List.filter_append_perm _ hooks

/-- Where a shape gathers nothing, everything is left alone. -/
theorem filter_not_gathers_of_nil {wanted : Subscription} {shape : Shape} {hooks : List Webhook}
    (nothing : gathered wanted shape hooks = []) :
    hooks.filter (fun hook => !(hook.isOwnedBy wanted && shape.gathers hook)) = hooks := by
  rw [gathered_eq_filter, List.filter_eq_nil_iff] at nothing
  apply List.filter_eq_self.mpr
  intro hook member
  rw [Bool.not_eq_true']
  exact Bool.eq_false_iff.mpr (nothing hook member)

section Untouched

variable {store : Store} {wanted : Subscription} {kind : Shape} {call : Call}
  {leftover : List Webhook} (distinct : ((store.webhooks wanted.repository).map Webhook.id).Nodup)
  (due : Due wanted kind (store.webhooks wanted.repository) call leftover)

include distinct due

/-- A change neither adds to what is left alone nor takes from it. -/
theorem Due.outside_eq :
    outside wanted kind ((store.perform call).2.webhooks wanted.repository) =
      outside wanted kind (store.webhooks wanted.repository) := by
  unfold outside
  cases due with
  | create nothing =>
      have own := Webhook.isOwnedBy_of_isUpToDate (fits_fresh wanted kind store.nextId)
      have gathers : kind.gathers (fresh wanted kind store.nextId) = true :=
        Shape.gathers_of_events_eq rfl
      rw [webhooks_create, choose_created nothing, List.filter_append,
        filter_not_gathers_of_nil (gathered_eq_nil_of_anchor?_eq_none nothing),
        filter_not_gathers_of_nil (anchor?_eq_none_iff.mp nothing),
        List.filter_cons_of_neg (by simp [own, gathers]), List.filter_nil, List.append_nil]
  | @update anchor found unfit =>
      have sameOutside := List.filter_congr
        fun hook (member : hook ∈ store.webhooks wanted.repository) =>
          congrArg not (gathers_rewritten distinct found member)
      rw [webhooks_update distinct, choose_rewritten distinct found, rewriteAt, List.filter_map]
      refine (congrArg _ sameOutside).trans ?_
      -- What is left alone has another id than the anchor, which is gathered.
      have unchanged : ∀ hook ∈ outside wanted kind (store.webhooks wanted.repository),
          (if hook.id = anchor.id then hook.rewrittenFor wanted
            (choose wanted kind (store.webhooks wanted.repository)).events else hook) =
            id hook := by
        intro hook member
        obtain ⟨old, isOutside⟩ := mem_outside.mp member
        apply if_neg
        intro same
        have inside := anchor_mem found
        rw [← List.inj_on_of_nodup_map distinct old (mem_gathered.mp inside).1 same] at inside
        exact isOutside inside
      exact (List.map_congr_left unchanged).trans (List.map_id _)
  | @delete kept gone leftover whole =>
      rw [Store.webhooks_perform_delete, choose_deleted whole, List.filter_filter]
      have other : gone ∈ others wanted (choose wanted kind (store.webhooks wanted.repository)) kept
          (store.webhooks wanted.repository) := whole.rest ▸ List.mem_cons_self
      apply List.filter_congr
      intro hook member
      by_cases same : hook.id = gone.id
      · obtain ⟨listed, own, gathers⟩ := mem_gathered.mp (mem_others.mp other).1
        obtain rfl := List.inj_on_of_nodup_map distinct member listed same
        simp [own, gathers]
      · simp [same]

theorem Due.untouched_iff {hook : Webhook} :
    Untouched wanted kind ((store.perform call).2.webhooks wanted.repository) hook ↔
      Untouched wanted kind (store.webhooks wanted.repository) hook := by
  rw [← mem_outside, ← mem_outside, due.outside_eq distinct]

end Untouched

/-- Where nothing is left over, there are the kept webhook and what was left alone. -/
theorem Kept.mem_iff {wanted : Subscription} {kind : Shape} {hooks : List Webhook} {kept : Webhook}
    (distinct : (hooks.map Webhook.id).Nodup) (whole : Kept wanted kind hooks kept [])
    {hook : Webhook} : hook ∈ hooks ↔ hook = kept ∨ Untouched wanted kind hooks hook := by
  have listed := (mem_gathered.mp (anchor_mem whole.anchor)).1
  constructor
  · intro member
    by_cases inside : hook ∈ gathered wanted (choose wanted kind hooks) hooks
    · left
      have notOther : hook ∉ others wanted (choose wanted kind hooks) kept hooks :=
        whole.rest ▸ List.not_mem_nil
      have sameId : hook.id = kept.id := by
        by_contra different
        exact notOther (mem_others.mpr ⟨inside, different⟩)
      exact List.inj_on_of_nodup_map distinct member listed sameId
    · exact .inr ⟨member, inside⟩
  · rintro (rfl | ⟨member, _⟩)
    · exact listed
    · exact member

/-- Distinct webhooks that are all the same are one. -/
theorem eq_singleton {hooks : List Webhook} {kept : Webhook}
    (distinct : (hooks.map Webhook.id).Nodup) (member : kept ∈ hooks)
    (alone : ∀ hook ∈ hooks, hook = kept) : hooks = [kept] := by
  refine List.perm_singleton.mp ((List.perm_ext_iff_of_nodup (distinct.of_map Webhook.id)
    (List.nodup_singleton kept)).mpr fun hook => ?_)
  rw [List.mem_singleton]
  exact ⟨alone hook, fun same => same ▸ member⟩

/-- Where nothing is left over, the chosen shape gathers the kept webhook alone. -/
theorem Kept.gathered_eq {wanted : Subscription} {kind : Shape} {hooks : List Webhook}
    {kept : Webhook} (distinct : (hooks.map Webhook.id).Nodup)
    (whole : Kept wanted kind hooks kept []) :
    gathered wanted (choose wanted kind hooks) hooks = [kept] := by
  refine eq_singleton (distinct_gathered distinct wanted _) (anchor_mem whole.anchor) ?_
  intro hook inside
  rcases (whole.mem_iff distinct).mp (mem_gathered.mp inside).1 with same | untouched
  · exact same
  · exact absurd inside untouched.2

/-! ## All changes in turn -/

section Turn

variable {store : Store} {wanted : Subscription} {kind : Shape} {call : Call}
  {leftover : List Webhook} (distinct : ((store.webhooks wanted.repository).map Webhook.id).Nodup)
  (due : Due wanted kind (store.webhooks wanted.repository) call leftover)

include distinct due

/-- A change behind which something is left over creates nothing, so ids stay distinct. -/
theorem Due.distinct_perform (more : leftover ≠ []) :
    (((store.perform call).2.webhooks wanted.repository).map Webhook.id).Nodup := by
  cases due with
  | create nothing => exact absurd rfl more
  | update found unfit =>
      rw [Store.ids_perform_update]
      exact distinct
  | delete whole =>
      rw [Store.webhooks_perform_delete]
      exact distinct.sublist (List.filter_sublist.map _)

/-- Behind the last change, the chosen shape gathers one webhook alone, even if a created one has
got an id that was taken. -/
theorem Due.gathered_eq_of_last (last : leftover = []) :
    gathered wanted (choose wanted kind ((store.perform call).2.webhooks wanted.repository))
        ((store.perform call).2.webhooks wanted.repository) =
      [outcome wanted kind (store.webhooks wanted.repository) store.nextId] := by
  have whole := due.kept distinct
  rw [last] at whole
  have aloneIfDistinct := whole.gathered_eq
  cases due with
  | create nothing =>
      rw [webhooks_create, choose_created nothing, gathered_created nothing, outcome, nothing]
  | update found unfit =>
      apply aloneIfDistinct
      rw [Store.ids_perform_update]
      exact distinct
  | delete _ =>
      apply aloneIfDistinct
      rw [Store.webhooks_perform_delete]
      exact distinct.sublist (List.filter_sublist.map _)

end Turn

/-- What holds when one webhook is gathered and kept as it is, and holds before each change that is
due if it holds behind it, holds wherever ids are distinct. -/
@[elab_as_elim]
theorem changes_induction (wanted : Subscription) (kind : Shape) {motive : Store → Prop}
    (settled : ∀ (store : Store) (kept : Webhook),
      Kept wanted kind (store.webhooks wanted.repository) kept [] →
      gathered wanted (choose wanted kind (store.webhooks wanted.repository))
        (store.webhooks wanted.repository) = [kept] → motive store)
    (change : ∀ (store : Store) (call : Call) (leftover : List Webhook),
      ((store.webhooks wanted.repository).map Webhook.id).Nodup →
      changes wanted kind (store.webhooks wanted.repository) =
        call :: deletions wanted.repository leftover →
      Due wanted kind (store.webhooks wanted.repository) call leftover →
      motive (store.perform call).2 → motive store)
    (store : Store) (distinct : ((store.webhooks wanted.repository).map Webhook.id).Nodup) :
    motive store := by
  generalize planned : changes wanted kind (store.webhooks wanted.repository) = calls
  induction calls generalizing store with
  | nil =>
      obtain ⟨kept, whole⟩ := changes_eq_nil_iff.mp planned
      exact settled store kept whole (whole.gathered_eq distinct)
  | cons call rest inductionHypothesis =>
      obtain ⟨leftover, rfl, due⟩ := due_of_changes_eq_cons planned
      have whole := due.kept distinct
      apply change store call leftover distinct planned due
      by_cases last : leftover = []
      · subst last
        exact settled _ _ whole (due.gathered_eq_of_last distinct rfl)
      · exact inductionHypothesis _ (due.distinct_perform distinct last) whole.changes_eq

end WebhookSync.Reconcile
